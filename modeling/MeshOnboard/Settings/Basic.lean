import MeshOnboard.Address.Socket
import MeshOnboard.Files.Path
import MeshOnboard.Overlay.Address
import MeshOnboard.Settings.Variables
import MeshOnboard.Time.Duration

/-!
# Settings

The program runs in one of two modes, and `Settings` holds what both need and what the chosen mode
needs.  `Settings.load` reads them from variables, one after the other, and stops at the first that
is missing or refused.
-/

namespace MeshOnboard

/-- What the program does. -/
inductive Mode where
  | server
  | client
  deriving DecidableEq

/-- The name of a mode. -/
def Mode.title : Mode → String
  | server => "Relay Server Mode"
  | client => "Client Mode"

/-- What only the relay server needs. -/
structure ServerSettings where
  listenAddress : SocketAddress
  organization : String
  /-- The token the organization is listed with. -/
  directoryToken : String
  directoryUrl : String
  pageSize : UInt32
  syncInterval : Duration
  cacheTtl : Duration
  lighthouse : Lighthouse
  subnet : Subnet
  /-- The program that signs certificates. -/
  signer : Path
  certificateDir : Path
  certificateDuration : String
  metricsAddress : Option SocketAddress
  deriving DecidableEq

/-- What only the client needs. -/
structure ClientSettings where
  zone : String
  nameServer : SocketAddress
  lookupTimeout : Duration
  probeTimeout : Duration
  discoveryDeadline : Duration
  /-- The bound on connecting to the chosen relay and on each call made to it. -/
  callTimeout : Duration
  login : String
  token : String
  overlayDir : Path
  /-- The overlay daemon. -/
  daemon : Path
  deriving DecidableEq

/-- What one mode needs. -/
inductive ModeSettings where
  | server (settings : ServerSettings)
  | client (settings : ClientSettings)
  deriving DecidableEq

/-- The settings of a run. -/
structure Settings where
  logLevel : String
  controlPort : UInt16
  role : ModeSettings
  deriving DecidableEq

/-- The mode whose settings these are. -/
def Settings.mode (s : Settings) : Mode :=
  match s.role with
  | .server _ => .server
  | .client _ => .client

/-! ### Loading -/

/-- The variables that settings are loaded from. -/
def Settings.variableNames : List String :=
  ["NERF_LOG_LEVEL", "NERF_CONTROL_PORT", "NERF_LISTEN_ADDR", "NERF_ORGANIZATION",
    "NERF_GITHUB_TOKEN", "NERF_GITHUB_API_URL", "NERF_DIRECTORY_PAGE_SIZE",
    "NERF_SYNC_INTERVAL_SECONDS", "NERF_CACHE_TTL_SECONDS", "NERF_LIGHTHOUSE",
    "NERF_NEBULA_SUBNET", "NERF_NEBULA_CERT_BIN", "NERF_CERT_DIR", "NERF_CERT_DURATION",
    "NERF_METRICS_ADDR", "NERF_DNS_ZONE", "NERF_DNS_SERVER", "NERF_DNS_TIMEOUT_SECONDS",
    "NERF_PROBE_TIMEOUT_MS", "NERF_DISCOVERY_DEADLINE_MS", "NERF_RPC_TIMEOUT_MS", "NERF_LOGIN",
    "NERF_TOKEN", "NERF_NEBULA_DIR", "NERF_NEBULA_BIN"]

namespace ServerSettings

/-- Where the directory is when no variable says so. -/
def defaultDirectoryUrl : String := "https://api.github.com"

/-- The subnet of the overlay when no variable says so. -/
def defaultSubnet : Subnet := ⟨.ofOctets 10 0 0 0, 16⟩

/-- The server's settings; by default it listens on `controlPort` of every address. -/
def load (vars : Variables) (controlPort : UInt16) : Except SettingsError ServerSettings := do
  let listenAddress ← vars.readOr "NERF_LISTEN_ADDR" "a socket address" SocketAddress.read?
    (.v4 (.ofOctets 0 0 0 0) controlPort)
  let organization ← vars.require "NERF_ORGANIZATION"
  let directoryToken ← vars.require "NERF_GITHUB_TOKEN"
  let directoryUrl := (vars.get? "NERF_GITHUB_API_URL").getD defaultDirectoryUrl
  let pageSize ← vars.readOr "NERF_DIRECTORY_PAGE_SIZE" "a positive integer"
    (Numeral.count? UInt32.size) 500
  let syncInterval ← vars.readOr "NERF_SYNC_INTERVAL_SECONDS" "a positive integer"
    (Numeral.count? UInt64.size) 10
  let cacheTtl ← vars.readOr "NERF_CACHE_TTL_SECONDS" "a positive integer"
    (Numeral.count? UInt64.size) 3600
  let lighthouse ← vars.readRequired "NERF_LIGHTHOUSE" "<NebulaIP>:<PublicIP>" Lighthouse.read?
  let subnet ← vars.readOr "NERF_NEBULA_SUBNET" "an IPv4 CIDR" Subnet.read? defaultSubnet
  let metricsAddress ← vars.readOption "NERF_METRICS_ADDR" "a socket address" SocketAddress.read?
  return {
    listenAddress, organization, directoryToken, directoryUrl
    pageSize := pageSize.toUInt32
    syncInterval := .ofSeconds syncInterval.toUInt64
    cacheTtl := .ofSeconds cacheTtl.toUInt64
    lighthouse, subnet
    signer := (vars.get? "NERF_NEBULA_CERT_BIN").getD "/usr/local/nebula/nebula-cert"
    certificateDir := (vars.get? "NERF_CERT_DIR").getD "/etc/nebula/certs"
    certificateDuration := (vars.get? "NERF_CERT_DURATION").getD "48h"
    metricsAddress }

end ServerSettings

namespace ClientSettings

/-- The client's settings; by default the daemon lies in the overlay directory. -/
def load (vars : Variables) : Except SettingsError ClientSettings := do
  let overlayDir : Path := (vars.get? "NERF_NEBULA_DIR").getD "/opt/nebula"
  let daemon := ((vars.get? "NERF_NEBULA_BIN").map Path.ofString).getD (overlayDir.join "nebula")
  let zone ← vars.require "NERF_DNS_ZONE"
  let nameServer ← vars.readOr "NERF_DNS_SERVER" "a socket address" SocketAddress.read?
    (.v4 (.ofOctets 1 1 1 1) 53)
  let lookupTimeout ← vars.readOr "NERF_DNS_TIMEOUT_SECONDS" "a positive integer"
    (Numeral.count? UInt64.size) 3
  let probeTimeout ← vars.readOr "NERF_PROBE_TIMEOUT_MS" "a positive integer"
    (Numeral.count? UInt64.size) 1000
  let discoveryDeadline ← vars.readOr "NERF_DISCOVERY_DEADLINE_MS" "a positive integer"
    (Numeral.count? UInt64.size) 5000
  let callTimeout ← vars.readOr "NERF_RPC_TIMEOUT_MS" "a positive integer"
    (Numeral.count? UInt64.size) 10000
  let login ← vars.require "NERF_LOGIN"
  let token ← vars.require "NERF_TOKEN"
  return {
    zone, nameServer
    lookupTimeout := .ofSeconds lookupTimeout.toUInt64
    probeTimeout := .ofMillis probeTimeout.toUInt64
    discoveryDeadline := .ofMillis discoveryDeadline.toUInt64
    callTimeout := .ofMillis callTimeout.toUInt64
    login, token, overlayDir, daemon }

end ClientSettings

/-- The settings of a run in the given mode. -/
def Settings.load (mode : Mode) (vars : Variables) : Except SettingsError Settings := do
  let logLevel := (vars.get? "NERF_LOG_LEVEL").getD "info"
  let controlPort ← vars.readOr "NERF_CONTROL_PORT" "a valid port number (0-65535)"
    (Numeral.count? UInt16.size) 9000
  let controlPort := controlPort.toUInt16
  match mode with
  | .server =>
    let settings ← ServerSettings.load vars controlPort
    return ⟨logLevel, controlPort, .server settings⟩
  | .client =>
    let settings ← ClientSettings.load vars
    return ⟨logLevel, controlPort, .client settings⟩

end MeshOnboard
