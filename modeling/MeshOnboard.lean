import MeshOnboard.Main
import MeshOnboard.Metrics.Page
import MeshOnboard.Proofs.Address.Socket
import MeshOnboard.Proofs.Directory.Completeness
import MeshOnboard.Proofs.Directory.Exactness
import MeshOnboard.Proofs.Directory.Lifetime
import MeshOnboard.Proofs.Directory.Membership
import MeshOnboard.Proofs.Directory.Paging
import MeshOnboard.Proofs.Directory.Retention
import MeshOnboard.Proofs.Directory.Schedule
import MeshOnboard.Proofs.Directory.SingleFlight
import MeshOnboard.Proofs.Directory.Traversal
import MeshOnboard.Proofs.Directory.Uninterrupted
import MeshOnboard.Proofs.Discovery.Isolation
import MeshOnboard.Proofs.Files.Writing
import MeshOnboard.Proofs.Metrics.Accounting
import MeshOnboard.Proofs.Overlay.Addressing
import MeshOnboard.Proofs.Overlay.Concurrency
import MeshOnboard.Proofs.Overlay.Groups
import MeshOnboard.Proofs.Overlay.Removal
import MeshOnboard.Proofs.Overlay.Rendering
import MeshOnboard.Proofs.Program.Serving
import MeshOnboard.Proofs.Program.Session
import MeshOnboard.Proofs.Relay.Lighthouse
import MeshOnboard.Proofs.Settings.Counts
import MeshOnboard.Proofs.Settings.Reload
import MeshOnboard.Proofs.Directory.LinkHeader
import MeshOnboard.Proofs.Overlay.Freshness
import MeshOnboard.Proofs.Yaml.Lines
import MeshOnboard.Proofs.Overlay.Outline
import MeshOnboard.Proofs.Discovery.Descriptions
import MeshOnboard.Proofs.Address.Grammar
import MeshOnboard.Proofs.Discovery.Position
import MeshOnboard.Proofs.Overlay.Remainder
import MeshOnboard.Proofs.Directory.Readiness
