import MeshOnboard.Overlay.Address
import MeshOnboard.Overlay.Certificate
import MeshOnboard.Yaml.Node

/-!
# The configuration of an overlay client

A client gets a configuration file that holds its certificate and sends all its traffic through the
lighthouse.  `Overlay.config` is the text of the file.
-/

namespace MeshOnboard.Overlay

open MeshOnboard.Yaml (Node)

/-- The port every node of the overlay listens on. -/
def port : UInt16 := 4242

/-- The first line of a configuration file and the empty line after it. -/
def header : List Char := "# Generated by Nerf\n\n".toList

/-- The routes that lead through the lighthouse: two halves of the address space, each of them more
specific than the default route. -/
def halves : List String := ["0.0.0.0/1", "128.0.0.0/1"]

/-- The configuration as a document. -/
def configNode (c : Certificate) (l : Lighthouse) (s : Subnet) : Node :=
  let lighthouse := Node.word l.overlay.text
  let portText := Numeral.decimal port.toNat
  .ofEntries [
    ("pki", .ofEntries [
      ("ca", .text c.authority.toList),
      ("cert", .text c.certificate.toList),
      ("key", .text c.key.toList)]),
    ("static_host_map", .mapping [
      (l.overlay.text, .sequence [.word (l.outside.text ++ ':' :: portText)])]),
    ("lighthouse", .ofEntries [
      ("am_lighthouse", .ofWord "false"),
      ("interval", .ofWord "60"),
      ("hosts", .sequence [lighthouse])]),
    ("listen", .ofEntries [
      ("host", .ofWord "0.0.0.0"),
      ("port", .word portText)]),
    ("local_range", .word s.text),
    ("tun", .ofEntries [
      ("disabled", .ofWord "false"),
      ("dev", .ofWord "nebula1"),
      ("unsafe_routes", .sequence (halves.map fun route =>
        .ofEntries [("route", .ofWord route), ("via", lighthouse)]))]),
    ("firewall", .ofEntries [
      ("outbound", .sequence [.ofEntries [
        ("port", .ofWord "any"),
        ("proto", .ofWord "any"),
        ("host", .ofWord "any")]])])]

/-- The text of the configuration file. -/
def config (c : Certificate) (l : Lighthouse) (s : Subnet) : String :=
  String.ofList (header ++ (configNode c l s).document)

end MeshOnboard.Overlay
