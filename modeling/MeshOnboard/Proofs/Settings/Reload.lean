import MeshOnboard.Proofs.Address.RoundTrip
import MeshOnboard.Proofs.Address.Socket
import MeshOnboard.Proofs.Settings.Loading
import MeshOnboard.Proofs.Text.Numeral
import MeshOnboard.Table

/-!
# Settings are loaded from their own variables

Settings that were loaded are written back into their variables and loaded once more, with the same
result (`load_write`).  The variables need not be what they were before: a numeral may have had a
plus sign and an address another spelling.  A value that holds is read back from its text, kind by
kind (`Setting.ReadsBack`), and the names of the variables are distinct, so that each is found.
-/

namespace MeshOnboard

namespace Setting

variable {α : Type} {s : Setting α} {vars : Variables} {a : α} {name expected : String}

/-- A value is read back from its text, or has none and holds of an unset variable. -/
def ReadsBack (s : Setting α) (a : α) : Prop :=
  (∃ cs, s.write? a = some cs ∧ cs ≠ [] ∧ s.read? cs = some a) ∨
  (s.write? a = none ∧ s.fallback? = some a)

/-- A value that is read back holds of the variable it is written into. -/
theorem ReadsBack.holds (h : s.ReadsBack a) (written : vars s.name = (s.entry a).2) :
  s.Holds vars a
  := by
  rcases h with ⟨cs, text, nonempty, meaning⟩ | ⟨text, fallback⟩
  · right
    use String.ofList cs
    simp [Variables.Has, written, entry, text, nonempty, meaning]
  · left
    simp [Variables.Unset, written, entry, text, fallback]

theorem readsBack_of_read? {cs : List Char} (text : s.write? a = some cs)
    (empty : s.read? [] = none) (meaning : s.read? cs = some a) :
  s.ReadsBack a
  := by
  left
  use cs, text
  refine ⟨?_, meaning⟩
  rintro rfl
  simp [empty] at meaning

/-! ### Kinds of settings -/

theorem readsBack_text {fallback? : Option String} {a : String} (nonempty : fallback? ≠ some "")
    (h : (text name fallback?).Holds vars a) :
  (text name fallback?).ReadsBack a
  := by
  left
  use a.toList, rfl
  refine ⟨?_, by simp [text]⟩
  rcases h with ⟨-, fallback⟩ | ⟨value, has, meaning⟩
  · rintro empty
    obtain rfl : a = "" := by simpa using empty
    exact nonempty fallback
  · have same : value = a := by simpa [text] using meaning
    simpa [same] using has.2

theorem readsBack_path {fallback a : Path} (nonempty : fallback.chars ≠ [])
    (h : (path name fallback).Holds vars a) :
  (path name fallback).ReadsBack a
  := by
  left
  use a.chars, rfl
  refine ⟨?_, rfl⟩
  rcases h with ⟨-, unset⟩ | ⟨value, has, meaning⟩
  · obtain rfl : fallback = a := by simpa [path] using unset
    exact nonempty
  · have same : ⟨value.toList⟩ = a := by simpa [path] using meaning
    simpa [← same] using has.2

theorem readsBack_address {fallback : SocketAddress} (a : SocketAddress) :
  (address name fallback).ReadsBack a
  := readsBack_of_read? rfl rfl (SocketAddress.read?_text a)

/-- A number that is below the bound and is got back from its value is read back. -/
theorem readsBack_number {bound fallback : Nat} {ofNat : Nat → α} {toNat : α → Nat}
    (back : ∀ n < bound, toNat (ofNat n) = n) (small : fallback < bound)
    (h : (number name expected bound ofNat toNat fallback).Holds vars a) :
  (number name expected bound ofNat toNat fallback).ReadsBack a
  := by
  have below : ∃ n < bound, ofNat n = a := by
    rcases holds_number_iff.1 h with ⟨-, unset⟩ | ⟨value, n, -, count, same⟩
    · use fallback, small, unset
    · use n, Numeral.lt_of_count? count, same
  obtain ⟨n, small, rfl⟩ := below
  have text : some (Numeral.decimal (toNat (ofNat n))) = some (Numeral.decimal n) := by
    rw [back n small]
  apply readsBack_of_read? text rfl
  simp [number, Numeral.count?_decimal small]

theorem readsBack_seconds {fallback : Nat} {d : Duration} (small : fallback < UInt64.size)
    (h : (seconds name fallback).Holds vars d) :
  (seconds name fallback).ReadsBack d
  := by
  refine readsBack_number ?_ small h
  intro n below
  exact UInt64.toNat_ofNat_of_lt' below

theorem readsBack_millis {fallback : Nat} {d : Duration} (small : fallback < UInt64.size)
    (h : (millis name fallback).Holds vars d) :
  (millis name fallback).ReadsBack d
  := by
  refine readsBack_number ?_ small h
  intro n below
  rw [Duration.toMillis_ofMillis]
  exact UInt64.toNat_ofNat_of_lt' below

theorem readsBack_lighthouse (l : Lighthouse) :
  lighthouse.ReadsBack l
  := readsBack_of_read? rfl rfl l.read?_text

theorem readsBack_subnet (n : Subnet) :
  subnet.ReadsBack n
  := readsBack_of_read? rfl rfl n.read?_text

theorem readsBack_metricsAddress (a : Option SocketAddress) :
  metricsAddress.ReadsBack a
  := by
  cases a with
  | none => exact .inr ⟨rfl, rfl⟩
  | some a =>
    have meaning : (SocketAddress.read? a.text).map some = some (some a) := by
      rw [SocketAddress.read?_text, Option.map_some]
    exact readsBack_of_read? rfl rfl meaning

end Setting

/-! ### The settings of a mode -/

/-- The settings of the server hold of variables that have their texts. -/
theorem ServerSettings.Held.of_written {s : ServerSettings} {vars vars' : Variables}
    {controlPort : UInt16} (h : s.Held vars controlPort)
    (written : ∀ entry ∈ Settings.serverEntries s, vars' entry.1 = entry.2) :
  s.Held vars' controlPort
  := by
  simp only [Settings.serverEntries, List.forall_mem_cons] at written
  obtain ⟨listenAddress, organization, directoryToken, directoryUrl, pageSize, syncInterval,
    cacheTtl, lighthouse, subnet, signer, certificateDir, certificateDuration, metricsAddress,
    -⟩ := written
  exact {
    listenAddress := (Setting.readsBack_address _).holds listenAddress
    organization := (Setting.readsBack_text (by simp) h.organization).holds organization
    directoryToken := (Setting.readsBack_text (by simp) h.directoryToken).holds directoryToken
    directoryUrl := (Setting.readsBack_text (by decide) h.directoryUrl).holds directoryUrl
    pageSize := (Setting.readsBack_number (fun n => UInt32.toNat_ofNat_of_lt') (by decide)
      h.pageSize).holds pageSize
    syncInterval := (Setting.readsBack_seconds (by decide) h.syncInterval).holds syncInterval
    cacheTtl := (Setting.readsBack_seconds (by decide) h.cacheTtl).holds cacheTtl
    lighthouse := (Setting.readsBack_lighthouse _).holds lighthouse
    subnet := (Setting.readsBack_subnet _).holds subnet
    signer := (Setting.readsBack_path (by decide) h.signer).holds signer
    certificateDir := (Setting.readsBack_path (by decide) h.certificateDir).holds certificateDir
    certificateDuration :=
      (Setting.readsBack_text (by simp) h.certificateDuration).holds certificateDuration
    metricsAddress := (Setting.readsBack_metricsAddress _).holds metricsAddress }

/-- The settings of the client hold of variables that have their texts. -/
theorem ClientSettings.Held.of_written {c : ClientSettings} {vars vars' : Variables}
    (h : c.Held vars) (written : ∀ entry ∈ Settings.clientEntries c, vars' entry.1 = entry.2) :
  c.Held vars'
  := by
  simp only [Settings.clientEntries, List.forall_mem_cons] at written
  obtain ⟨overlayDir, daemon, zone, nameServer, lookupTimeout, probeTimeout, discoveryDeadline,
    callTimeout, login, token, -⟩ := written
  exact {
    overlayDir := (Setting.readsBack_path (by decide) h.overlayDir).holds overlayDir
    daemon := (Setting.readsBack_path (Path.chars_join_ne_nil _ (by decide)) h.daemon).holds daemon
    zone := (Setting.readsBack_text (by simp) h.zone).holds zone
    nameServer := (Setting.readsBack_address _).holds nameServer
    lookupTimeout := (Setting.readsBack_seconds (by decide) h.lookupTimeout).holds lookupTimeout
    probeTimeout := (Setting.readsBack_millis (by decide) h.probeTimeout).holds probeTimeout
    discoveryDeadline :=
      (Setting.readsBack_millis (by decide) h.discoveryDeadline).holds discoveryDeadline
    callTimeout := (Setting.readsBack_millis (by decide) h.callTimeout).holds callTimeout
    login := (Setting.readsBack_text (by simp) h.login).holds login
    token := (Setting.readsBack_text (by simp) h.token).holds token }

namespace Settings

variable {mode : Mode} {vars : Variables} {s : Settings}

/-! ### Settings in their variables -/

/-- Every variable of the mode, and no other, is written. -/
theorem Held.names_entries (h : s.Held mode vars) :
  s.entries.map Prod.fst = (rules mode).map Rule.name
  := by
  obtain ⟨logLevel, controlPort, role⟩ := s
  cases h.role with
  | server _ => rfl
  | client _ => rfl

theorem nodup_names (mode : Mode) :
  ((rules mode).map Rule.name).Nodup
  := by
  cases mode with
  | server => decide
  | client => decide

/-- A variable has the text that is written into it. -/
theorem Held.write_of_mem (h : s.Held mode vars) {name : String} {text : Option String}
    (mem : (name, text) ∈ s.entries) :
  s.write name = text
  := by
  have distinct : (s.entries.map Prod.fst).Nodup := h.names_entries ▸ nodup_names mode
  have found : s.entries.lookup name = some text :=
    (Table.find?_eq_some_iff (t := ⟨s.entries, distinct⟩)).2 mem
  rw [write, found, Option.join_some]

/-- Settings hold of variables that have the texts of the settings. -/
theorem Held.of_written {vars' : Variables} (h : s.Held mode vars)
    (written : ∀ entry ∈ s.entries, vars' entry.1 = entry.2) :
  s.Held mode vars'
  := by
  obtain ⟨logLevel, controlPort, role⟩ := s
  obtain ⟨level, port, role⟩ := h
  simp only [entries, List.forall_mem_cons] at written
  obtain ⟨writtenLevel, writtenPort, written⟩ := written
  constructor
  · exact (Setting.readsBack_text (by simp) level).holds writtenLevel
  · exact (Setting.readsBack_number (fun n => UInt16.toNat_ofNat_of_lt') (by decide) port).holds
      writtenPort
  · cases role with
    | server settings => exact .server (settings.of_written written)
    | client settings => exact .client (settings.of_written written)

/-- Settings that were loaded are loaded again from variables that have the texts of the settings,
whatever the variables of the other mode are. -/
theorem load_write (mode : Mode) (vars : Variables) (s : Settings) (h : load mode vars = .ok s) :
  load mode s.write = .ok s ∧
  ∀ vars', (∀ r ∈ rules mode, vars'.get? r.name = s.write.get? r.name) → load mode vars' = .ok s
  := by
  have held : s.Held mode vars := load_eq_ok_iff.1 h
  have again : load mode s.write = .ok s := by
    apply load_eq_ok_iff.2
    apply held.of_written
    rintro ⟨name, text⟩ mem
    exact held.write_of_mem mem
  use again
  intro vars' same
  rw [(follows_load mode).congr s.write vars' same, again]

/-- Variables of the server whose texts are not those that settings are written as. -/
def spelled : Variables := fun name =>
  [("NERF_CONTROL_PORT", "+09000"), ("NERF_LISTEN_ADDR", "[2001:DB8:0:0:00::1%07]:443"),
    ("NERF_ORGANIZATION", "acme"), ("NERF_GITHUB_TOKEN", "secret"),
    ("NERF_DIRECTORY_PAGE_SIZE", "0050"), ("NERF_LIGHTHOUSE", "10.0.0.1:203.0.113.7"),
    ("NERF_METRICS_ADDR", "[::FFFF:7f00:1]:9"), ("NERF_DNS_TIMEOUT_SECONDS", "soon")].lookup name

/-- What `spelled` is loaded as. -/
def spelledSettings : Settings where
  logLevel := "info"
  controlPort := 9000
  role := .server {
    listenAddress := .v6 ⟨#v[0x2001, 0xdb8, 0, 0, 0, 0, 0, 1]⟩ 7 443
    organization := "acme"
    directoryToken := "secret"
    directoryUrl := ServerSettings.defaultDirectoryUrl
    pageSize := 50
    syncInterval := .ofSeconds 10
    cacheTtl := .ofSeconds 3600
    lighthouse := ⟨.ofOctets 10 0 0 1, .ofOctets 203 0 113 7⟩
    subnet := ServerSettings.defaultSubnet
    signer := "/usr/local/nebula/nebula-cert"
    certificateDir := "/etc/nebula/certs"
    certificateDuration := "48h"
    metricsAddress := some (.v6 ⟨#v[0, 0, 0, 0, 0, 0xffff, 0x7f00, 1]⟩ 0 9) }

/-- The addresses are written in another way than they were given, and loaded as the same. -/
theorem load_write_spelled :
  load .server spelled = .ok spelledSettings ∧
  spelledSettings.write "NERF_LISTEN_ADDR" = some "[2001:db8::1%7]:443" ∧
  spelledSettings.write "NERF_METRICS_ADDR" = some "[::ffff:127.0.0.1]:9" ∧
  load .server spelledSettings.write = .ok spelledSettings
  := by
  have loaded : load .server spelled = .ok spelledSettings := rfl
  use loaded, rfl, rfl
  exact (load_write .server spelled spelledSettings loaded).1

end Settings

end MeshOnboard
