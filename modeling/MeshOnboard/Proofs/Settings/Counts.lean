import MeshOnboard.Program.ServerRun
import MeshOnboard.Proofs.Settings.Loading
import MeshOnboard.Proofs.Text.Numeral

/-!
# Settings that are asked for as positive integers

Seven settings are expected to be positive integers.  What is read is any number below the bound of
the setting, and so each of them is zero exactly if its variable is written in zeros
(`counts_pos_iff`).  An interval of zero stops the synchronization before it begins, and the server
that loaded it never comes to listen.
-/

namespace MeshOnboard

/-! ### Numbers of zero -/

namespace Setting

variable {α : Type} {vars : Variables} {name expected : String} {a : α}

/-- The variable is set to a text of zeros. -/
def WrittenZero (vars : Variables) (name : String) : Prop :=
  ∃ value, vars.Has name value ∧ Numeral.IsZero value.toList

/-- A number that is not zero when its variable is unset is zero exactly if it is written in
zeros. -/
theorem size_eq_zero_iff {bound fallback : Nat} {ofNat : Nat → α} {toNat : α → Nat}
    (h : (number name expected bound ofNat toNat fallback).Holds vars a) {size : α → Nat}
    (measures : ∀ n < bound, size (ofNat n) = 0 ↔ n = 0) (positive : 0 < fallback)
    (small : fallback < bound) :
  size a = 0 ↔ WrittenZero vars name
  := by
  rcases holds_number_iff.1 h with ⟨unset, rfl⟩ | ⟨value, n, has, count, rfl⟩
  · rw [measures fallback small]
    constructor
    · omega
    · rintro ⟨value, has, -⟩
      exact absurd unset has.not_unset
  · rw [measures n (Numeral.lt_of_count? count)]
    have zero : n = 0 ↔ Numeral.IsZero value.toList := by
      rw [← Numeral.count?_eq_zero_iff (Nat.zero_lt_of_lt small), count, Option.some.injEq]
    rw [zero]
    constructor
    · intro zeros
      use value, has
    · rintro ⟨value', has', zeros⟩
      rwa [has.unique has']

theorem toMillis_seconds_eq_zero_iff {fallback : Nat} {d : Duration}
    (h : (seconds name fallback).Holds vars d) (positive : 0 < fallback)
    (small : fallback < UInt64.size) :
  d.toMillis = 0 ↔ WrittenZero vars name
  := by
  apply size_eq_zero_iff h _ positive small
  intro n below
  rw [Duration.toMillis_ofSeconds, UInt64.toNat_ofNat_of_lt' below]
  omega

theorem toMillis_millis_eq_zero_iff {fallback : Nat} {d : Duration}
    (h : (millis name fallback).Holds vars d) (positive : 0 < fallback)
    (small : fallback < UInt64.size) :
  d.toMillis = 0 ↔ WrittenZero vars name
  := by
  apply size_eq_zero_iff h _ positive small
  intro n below
  rw [Duration.toMillis_ofMillis, UInt64.toNat_ofNat_of_lt' below]

end Setting

/-! ### The settings of a mode -/

namespace ServerSettings

/-- The settings of the server that are asked for as positive integers, by variable. -/
def counts (s : ServerSettings) : List (String × Nat) :=
  [(Setting.pageSize.name, s.pageSize.toNat), (Setting.syncInterval.name, s.syncInterval.toMillis),
    (Setting.cacheTtl.name, s.cacheTtl.toMillis)]

variable {s : ServerSettings} {vars : Variables} {controlPort : UInt16}

theorem Held.toMillis_syncInterval_eq_zero_iff (h : s.Held vars controlPort) :
  s.syncInterval.toMillis = 0 ↔ Setting.WrittenZero vars Setting.syncInterval.name
  := Setting.toMillis_seconds_eq_zero_iff h.syncInterval (by decide) (by decide)

/-- The interval is one of whole seconds. -/
theorem Held.dvd_toMillis_syncInterval (h : s.Held vars controlPort) :
  1000 ∣ s.syncInterval.toMillis
  := by
  obtain ⟨n, same⟩ : ∃ n : Nat, .ofSeconds n.toUInt64 = s.syncInterval := by
    rcases Setting.holds_number_iff.1 h.syncInterval with ⟨-, same⟩ | ⟨-, n, -, -, same⟩
    · exact ⟨_, same⟩
    · exact ⟨n, same⟩
  rw [← same, Duration.toMillis_ofSeconds]
  apply Nat.dvd_mul_left

theorem Held.counts_eq_zero_iff (h : s.Held vars controlPort) :
  ∀ x ∈ s.counts, x.2 = 0 ↔ Setting.WrittenZero vars x.1
  := by
  simp only [counts, List.forall_mem_cons, List.not_mem_nil, false_implies, implies_true, and_true]
  refine ⟨?_, h.toMillis_syncInterval_eq_zero_iff, ?_⟩
  · apply Setting.size_eq_zero_iff h.pageSize _ (by decide) (by decide)
    intro n below
    rw [UInt32.toNat_ofNat_of_lt' below]
  · apply Setting.toMillis_seconds_eq_zero_iff h.cacheTtl (by decide) (by decide)

end ServerSettings

namespace ClientSettings

/-- The settings of the client that are asked for as positive integers, by variable. -/
def counts (c : ClientSettings) : List (String × Nat) :=
  [(Setting.lookupTimeout.name, c.lookupTimeout.toMillis),
    (Setting.probeTimeout.name, c.probeTimeout.toMillis),
    (Setting.discoveryDeadline.name, c.discoveryDeadline.toMillis),
    (Setting.callTimeout.name, c.callTimeout.toMillis)]

theorem Held.counts_eq_zero_iff {c : ClientSettings} {vars : Variables} (h : c.Held vars) :
  ∀ x ∈ c.counts, x.2 = 0 ↔ Setting.WrittenZero vars x.1
  := by
  simp only [counts, List.forall_mem_cons, List.not_mem_nil, false_implies, implies_true, and_true]
  refine ⟨?_, ?_, ?_, ?_⟩
  · apply Setting.toMillis_seconds_eq_zero_iff h.lookupTimeout (by decide) (by decide)
  · apply Setting.toMillis_millis_eq_zero_iff h.probeTimeout (by decide) (by decide)
  · apply Setting.toMillis_millis_eq_zero_iff h.discoveryDeadline (by decide) (by decide)
  · apply Setting.toMillis_millis_eq_zero_iff h.callTimeout (by decide) (by decide)

end ClientSettings

/-! ### An interval of zero -/

/-- A server with an interval of zero never comes to listen. -/
theorem ServerRun.not_comesToListen {s : ServerSettings} (stopped : s.syncInterval.toMillis = 0)
    {σ : Type} (transport : Transport σ) (world : σ) (now : Int64) (horizon : Nat) :
  comesToListen s transport world now horizon = false
  := by
  simp only [comesToListen, stopped, SyncTask.events]
  rfl

namespace Settings

/-- The settings that are asked for as positive integers, by variable. -/
def counts (s : Settings) : List (String × Nat) :=
  match s.role with
  | .server settings => settings.counts
  | .client settings => settings.counts

/-- Settings that were loaded are positive where a positive integer is asked for, unless their
variable is written in zeros.  The interval at which a server synchronizes is among them.  One that
is not zero is beyond the tolerance for lateness, and with an interval of zero the synchronization
stops before its first tick and the server never comes to listen. -/
theorem counts_pos_iff (mode : Mode) (vars : Variables) (s : Settings)
    (h : load mode vars = .ok s) :
  s.counts.map Prod.fst =
    ((rules mode).filter (·.expected = "a positive integer")).map Rule.name ∧
  (∀ x ∈ s.counts, 0 < x.2 ↔ ¬ Setting.WrittenZero vars x.1) ∧
  ∀ settings, s.role = .server settings →
    let period := settings.syncInterval.toMillis
    (¬ Setting.WrittenZero vars "NERF_SYNC_INTERVAL_SECONDS" → Cadence.tolerance < period) ∧
    (Setting.WrittenZero vars "NERF_SYNC_INTERVAL_SECONDS" →
      SyncTask.keepsRunning period = false ∧
      ∀ (σ : Type) (transport : Transport σ) (world : σ) (now : Int64) (horizon : Nat),
        ServerRun.comesToListen settings transport world now horizon = false)
  := by
  have held := load_eq_ok_iff.1 h
  obtain ⟨logLevel, controlPort, role⟩ := s
  refine ⟨?names, ?positive, ?interval⟩
  case names =>
    cases held.role with
    | server _ => rfl
    | client _ => rfl
  case positive =>
    intro x mem
    rw [Nat.pos_iff_ne_zero]
    apply not_congr
    cases held.role with
    | server holds => exact holds.counts_eq_zero_iff x mem
    | client holds => exact holds.counts_eq_zero_iff x mem
  case interval =>
    rintro settings rfl period
    cases held.role with
    | server holds =>
      have zero : period = 0 ↔ _ := holds.toMillis_syncInterval_eq_zero_iff
      constructor
      · intro unwritten
        have positive : 0 < period := Nat.pos_of_ne_zero fun none => unwritten (zero.1 none)
        calc Cadence.tolerance < 1000 := by decide
          _ ≤ period := Nat.le_of_dvd positive holds.dvd_toMillis_syncInterval
      · intro written
        have stopped := zero.2 written
        constructor
        · simp [SyncTask.keepsRunning, stopped]
        · intro σ
          apply ServerRun.not_comesToListen stopped

/-- Variables of both modes in which all positive integers are written in zeros. -/
def zeros : Variables := fun name =>
  [("NERF_ORGANIZATION", "acme"), ("NERF_GITHUB_TOKEN", "secret"),
    ("NERF_LIGHTHOUSE", "10.0.0.1:203.0.113.7"), ("NERF_DIRECTORY_PAGE_SIZE", "+000"),
    ("NERF_SYNC_INTERVAL_SECONDS", "0"), ("NERF_CACHE_TTL_SECONDS", "00"),
    ("NERF_DNS_ZONE", "example.com"), ("NERF_LOGIN", "ada"), ("NERF_TOKEN", "token"),
    ("NERF_DNS_TIMEOUT_SECONDS", "0"), ("NERF_PROBE_TIMEOUT_MS", "+0"),
    ("NERF_DISCOVERY_DEADLINE_MS", "000"), ("NERF_RPC_TIMEOUT_MS", "0")].lookup name

/-- A server that is given an interval of zero is started and never comes to listen. -/
theorem counts_pos_of_zeros :
  ∃ settings, load .server zeros = .ok ⟨"info", 9000, .server settings⟩ ∧
    Setting.WrittenZero zeros "NERF_SYNC_INTERVAL_SECONDS" ∧
    ∀ (transport : Transport Unit) (now : Int64) (horizon : Nat),
      ServerRun.comesToListen settings transport () now horizon = false
  := by
  obtain ⟨settings, loaded⟩ :
      ∃ settings, load .server zeros = .ok ⟨"info", 9000, .server settings⟩ := ⟨_, rfl⟩
  have written : Setting.WrittenZero zeros "NERF_SYNC_INTERVAL_SECONDS" := by
    have has : zeros.Has "NERF_SYNC_INTERVAL_SECONDS" "0" := ⟨rfl, by decide⟩
    use "0", has
    apply (Numeral.count?_eq_zero_iff Nat.one_pos).1
    rfl
  obtain ⟨-, -, interval⟩ := counts_pos_iff .server zeros _ loaded
  obtain ⟨-, stopped⟩ := (interval settings rfl).2 written
  use settings, loaded, written
  intro transport
  apply stopped

/-- Both modes load zero for every setting that is asked for as a positive integer. -/
theorem load_zeros :
  (load .server zeros).map counts =
    .ok [("NERF_DIRECTORY_PAGE_SIZE", 0), ("NERF_SYNC_INTERVAL_SECONDS", 0),
      ("NERF_CACHE_TTL_SECONDS", 0)] ∧
  (load .client zeros).map counts =
    .ok [("NERF_DNS_TIMEOUT_SECONDS", 0), ("NERF_PROBE_TIMEOUT_MS", 0),
      ("NERF_DISCOVERY_DEADLINE_MS", 0), ("NERF_RPC_TIMEOUT_MS", 0)]
  := ⟨rfl, rfl⟩

end Settings

end MeshOnboard
