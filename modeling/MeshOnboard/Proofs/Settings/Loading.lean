import MeshOnboard.Proofs.Settings.Rules

/-!
# Loading the settings

The settings of a mode are loaded by the rules of the mode, one after the other, and a setting that
is loaded has the meaning of its variable, or what holds without one.  Which settings hold, and
which error comes first, is therefore decided by the variables of the mode alone (`load_decided`).
-/

namespace MeshOnboard

namespace Setting

variable {α β : Type} {s : Setting α} {vars : Variables} {a : α}

/-! ### Kinds of settings -/

theorem load_eq_readOr (h : s.fallback? = some a) :
  s.load vars = vars.readOr s.name s.expected s.read? a
  := by
  unfold load Variables.readOr Variables.readOption
  rw [h]
  cases vars.get? s.name with
  | none => rfl
  | some value =>
    simp only [Variables.interpret]
    cases s.read? value.toList with
    | none => rfl
    | some a => rfl

theorem load_eq_readRequired (h : s.fallback? = none) :
  s.load vars = vars.readRequired s.name s.expected s.read?
  := by
  unfold load Variables.readRequired Variables.require
  rw [h]
  cases vars.get? s.name with
  | none => rfl
  | some value => rfl

theorem load_metricsAddress :
  metricsAddress.load vars =
    vars.readOption "NERF_METRICS_ADDR" "a socket address" SocketAddress.read?
  := by
  simp only [load, metricsAddress, Variables.readOption]
  cases vars.get? "NERF_METRICS_ADDR" with
  | none => rfl
  | some value =>
    simp only [Variables.interpret]
    cases SocketAddress.read? value.toList with
    | none => rfl
    | some a => rfl

variable {name expected : String}

theorem load_text :
  (text name none).load vars = vars.require name
  := by
  simp only [load, text, Variables.require]
  cases vars.get? name with
  | none => rfl
  | some value => simp [Variables.interpret]

/-- A text that may be unset is always loaded. -/
theorem bind_load_text {fallback : String} {f : String → Except SettingsError β} :
  ((text name (some fallback)).load vars >>= f) = f ((vars.get? name).getD fallback)
  := by
  simp only [load, text]
  cases vars.get? name with
  | none => rfl
  | some value => simp [Variables.interpret, bind, Except.bind]

/-- A path that may be unset is always loaded. -/
theorem bind_load_path {fallback : Path} {f : Path → Except SettingsError β} :
  ((path name fallback).load vars >>= f) = f (((vars.get? name).map Path.ofString).getD fallback)
  := by
  simp only [load, path]
  cases vars.get? name with
  | none => rfl
  | some value => rfl

theorem bind_load_number {bound fallback : Nat} {ofNat : Nat → α} {toNat : α → Nat}
    {f : α → Except SettingsError β} :
  ((number name expected bound ofNat toNat fallback).load vars >>= f) =
    (vars.readOr name expected (Numeral.count? bound) fallback >>= fun n => f (ofNat n))
  := by
  simp only [load, number, Variables.readOr, Variables.readOption]
  cases vars.get? name with
  | none => rfl
  | some value =>
    simp only [Variables.interpret]
    cases Numeral.count? bound value.toList with
    | none => rfl
    | some n => rfl

/-- A number holds when its variable counts as it, or when it is the fallback of an unset
variable. -/
theorem holds_number_iff {bound fallback : Nat} {ofNat : Nat → α} {toNat : α → Nat} :
  (number name expected bound ofNat toNat fallback).Holds vars a ↔
    (vars.Unset name ∧ ofNat fallback = a) ∨
    ∃ value n, vars.Has name value ∧ Numeral.count? bound value.toList = some n ∧ ofNat n = a
  := by
  simp only [Holds, number, Option.some.injEq, Option.map_eq_some_iff]
  apply or_congr_right
  apply exists_congr
  intro value
  exact exists_and_left.symm

end Setting

namespace ServerSettings

variable {vars : Variables} {controlPort : UInt16}

/-- The settings of the server are loaded one after the other. -/
theorem load_eq_settings :
  load vars controlPort = do
    let listenAddress ← (Setting.listenAddress controlPort).load vars
    let organization ← Setting.organization.load vars
    let directoryToken ← Setting.directoryToken.load vars
    let directoryUrl ← Setting.directoryUrl.load vars
    let pageSize ← Setting.pageSize.load vars
    let syncInterval ← Setting.syncInterval.load vars
    let cacheTtl ← Setting.cacheTtl.load vars
    let lighthouse ← Setting.lighthouse.load vars
    let subnet ← Setting.subnet.load vars
    let signer ← Setting.signer.load vars
    let certificateDir ← Setting.certificateDir.load vars
    let certificateDuration ← Setting.certificateDuration.load vars
    let metricsAddress ← Setting.metricsAddress.load vars
    return {
      listenAddress, organization, directoryToken, directoryUrl, pageSize, syncInterval, cacheTtl
      lighthouse, subnet, signer, certificateDir, certificateDuration, metricsAddress }
  := by
  rw [Setting.load_metricsAddress,
    Setting.load_eq_readOr (s := Setting.listenAddress controlPort) rfl,
    Setting.load_eq_readRequired (s := Setting.lighthouse) rfl,
    Setting.load_eq_readOr (s := Setting.subnet) rfl]
  simp only [Setting.organization, Setting.directoryToken, Setting.directoryUrl, Setting.pageSize,
    Setting.syncInterval, Setting.cacheTtl, Setting.signer, Setting.certificateDir,
    Setting.certificateDuration, Setting.seconds, Setting.load_text, Setting.bind_load_text,
    Setting.bind_load_path, Setting.bind_load_number, Option.getD_map]
  rfl

/-- Every setting of the server holds; the address it listens at may follow the control port. -/
structure Held (s : ServerSettings) (vars : Variables) (controlPort : UInt16) : Prop where
  listenAddress : (Setting.listenAddress controlPort).Holds vars s.listenAddress
  organization : Setting.organization.Holds vars s.organization
  directoryToken : Setting.directoryToken.Holds vars s.directoryToken
  directoryUrl : Setting.directoryUrl.Holds vars s.directoryUrl
  pageSize : Setting.pageSize.Holds vars s.pageSize
  syncInterval : Setting.syncInterval.Holds vars s.syncInterval
  cacheTtl : Setting.cacheTtl.Holds vars s.cacheTtl
  lighthouse : Setting.lighthouse.Holds vars s.lighthouse
  subnet : Setting.subnet.Holds vars s.subnet
  signer : Setting.signer.Holds vars s.signer
  certificateDir : Setting.certificateDir.Holds vars s.certificateDir
  certificateDuration : Setting.certificateDuration.Holds vars s.certificateDuration
  metricsAddress : Setting.metricsAddress.Holds vars s.metricsAddress

theorem load_eq_ok_iff {s : ServerSettings} :
  load vars controlPort = .ok s ↔ s.Held vars controlPort
  := by
  simp only [load_eq_settings, Setting.bind_load_eq_ok_iff]
  constructor
  · rintro ⟨_, listenAddress, _, organization, _, directoryToken, _, directoryUrl, _, pageSize,
      _, syncInterval, _, cacheTtl, _, lighthouse, _, subnet, _, signer, _, certificateDir,
      _, certificateDuration, _, metricsAddress, same⟩
    obtain rfl := Except.ok.inj same
    constructor
    all_goals assumption
  · intro h
    exact ⟨_, h.listenAddress, _, h.organization, _, h.directoryToken, _, h.directoryUrl,
      _, h.pageSize, _, h.syncInterval, _, h.cacheTtl, _, h.lighthouse, _, h.subnet, _, h.signer,
      _, h.certificateDir, _, h.certificateDuration, _, h.metricsAddress, rfl⟩

theorem follows_load (controlPort : UInt16) :
  Follows Settings.serverRules fun vars => load vars controlPort
  := by
  simp only [load_eq_settings]
  iterate 13
    refine Follows.bind _ (by rfl) fun _ => ?_
  apply Follows.pure

end ServerSettings

namespace ClientSettings

variable {vars : Variables}

/-- The settings of the client are loaded one after the other. -/
theorem load_eq_settings :
  load vars = do
    let overlayDir ← Setting.overlayDir.load vars
    let daemon ← (Setting.daemon overlayDir).load vars
    let zone ← Setting.zone.load vars
    let nameServer ← Setting.nameServer.load vars
    let lookupTimeout ← Setting.lookupTimeout.load vars
    let probeTimeout ← Setting.probeTimeout.load vars
    let discoveryDeadline ← Setting.discoveryDeadline.load vars
    let callTimeout ← Setting.callTimeout.load vars
    let login ← Setting.login.load vars
    let token ← Setting.token.load vars
    return {
      zone, nameServer, lookupTimeout, probeTimeout, discoveryDeadline, callTimeout
      login, token, overlayDir, daemon }
  := by
  rw [Setting.load_eq_readOr (s := Setting.nameServer) rfl]
  simp only [Setting.overlayDir, Setting.daemon, Setting.zone, Setting.lookupTimeout,
    Setting.probeTimeout, Setting.discoveryDeadline, Setting.callTimeout, Setting.login,
    Setting.token, Setting.seconds, Setting.millis, Setting.load_text, Setting.bind_load_path,
    Setting.bind_load_number, Option.getD_map]
  rfl

/-- Every setting of the client holds; the daemon may follow the overlay directory. -/
structure Held (c : ClientSettings) (vars : Variables) : Prop where
  overlayDir : Setting.overlayDir.Holds vars c.overlayDir
  daemon : (Setting.daemon c.overlayDir).Holds vars c.daemon
  zone : Setting.zone.Holds vars c.zone
  nameServer : Setting.nameServer.Holds vars c.nameServer
  lookupTimeout : Setting.lookupTimeout.Holds vars c.lookupTimeout
  probeTimeout : Setting.probeTimeout.Holds vars c.probeTimeout
  discoveryDeadline : Setting.discoveryDeadline.Holds vars c.discoveryDeadline
  callTimeout : Setting.callTimeout.Holds vars c.callTimeout
  login : Setting.login.Holds vars c.login
  token : Setting.token.Holds vars c.token

theorem load_eq_ok_iff {c : ClientSettings} :
  load vars = .ok c ↔ c.Held vars
  := by
  simp only [load_eq_settings, Setting.bind_load_eq_ok_iff]
  constructor
  · rintro ⟨_, overlayDir, _, daemon, _, zone, _, nameServer, _, lookupTimeout, _, probeTimeout,
      _, discoveryDeadline, _, callTimeout, _, login, _, token, same⟩
    obtain rfl := Except.ok.inj same
    constructor
    all_goals assumption
  · intro h
    exact ⟨_, h.overlayDir, _, h.daemon, _, h.zone, _, h.nameServer, _, h.lookupTimeout,
      _, h.probeTimeout, _, h.discoveryDeadline, _, h.callTimeout, _, h.login, _, h.token, rfl⟩

theorem follows_load :
  Follows Settings.clientRules load
  := by
  simp only [funext fun vars => @load_eq_settings vars]
  iterate 10
    refine Follows.bind _ (by rfl) fun _ => ?_
  apply Follows.pure

end ClientSettings

/-- The settings are those of the mode, and every one of them holds. -/
inductive ModeSettings.Held (vars : Variables) (controlPort : UInt16) :
    Mode → ModeSettings → Prop where
  | server {s : ServerSettings} (h : s.Held vars controlPort) :
      Held vars controlPort .server (.server s)
  | client {c : ClientSettings} (h : c.Held vars) : Held vars controlPort .client (.client c)

namespace Settings

variable {mode : Mode} {vars : Variables}

/-- The settings that every mode has hold, and those of the mode. -/
structure Held (s : Settings) (mode : Mode) (vars : Variables) : Prop where
  logLevel : Setting.logLevel.Holds vars s.logLevel
  controlPort : Setting.controlPort.Holds vars s.controlPort
  role : ModeSettings.Held vars s.controlPort mode s.role

/-- The settings of a mode are loaded after those of every mode. -/
theorem load_eq_settings :
  load mode vars = do
    let logLevel ← Setting.logLevel.load vars
    let controlPort ← Setting.controlPort.load vars
    match mode with
    | .server => return ⟨logLevel, controlPort, .server (← ServerSettings.load vars controlPort)⟩
    | .client => return ⟨logLevel, controlPort, .client (← ClientSettings.load vars)⟩
  := by
  simp only [Setting.logLevel, Setting.controlPort, Setting.bind_load_text,
    Setting.bind_load_number]
  rfl

theorem load_eq_ok_iff {s : Settings} :
  load mode vars = .ok s ↔ s.Held mode vars
  := by
  simp only [load_eq_settings, Setting.bind_load_eq_ok_iff]
  constructor
  · rintro ⟨logLevel, holdsLevel, controlPort, holdsPort, same⟩
    cases mode with
    | server =>
      cases loaded : ServerSettings.load vars controlPort with
      | error e => simp [loaded, bind, Except.bind] at same
      | ok settings =>
        rw [loaded] at same
        obtain rfl := Except.ok.inj same
        exact ⟨holdsLevel, holdsPort, .server (ServerSettings.load_eq_ok_iff.1 loaded)⟩
    | client =>
      cases loaded : ClientSettings.load vars with
      | error e => simp [loaded, bind, Except.bind] at same
      | ok settings =>
        rw [loaded] at same
        obtain rfl := Except.ok.inj same
        exact ⟨holdsLevel, holdsPort, .client (ClientSettings.load_eq_ok_iff.1 loaded)⟩
  · rintro ⟨holdsLevel, holdsPort, role⟩
    refine ⟨_, holdsLevel, _, holdsPort, ?_⟩
    obtain ⟨logLevel, controlPort, role'⟩ := s
    cases role with
    | server h => simp only [ServerSettings.load_eq_ok_iff.2 h]; rfl
    | client h => simp only [ClientSettings.load_eq_ok_iff.2 h]; rfl

/-- The settings of a mode are loaded by the rules of the mode. -/
theorem follows_load (mode : Mode) :
  Follows (rules mode) (load mode)
  := by
  simp only [funext fun vars => @load_eq_settings mode vars]
  cases mode with
  | server =>
    refine Follows.bind _ (by rfl) fun logLevel => Follows.bind _ (by rfl) fun controlPort => ?_
    apply (ServerSettings.follows_load controlPort).map
  | client =>
    refine Follows.bind _ (by rfl) fun logLevel => Follows.bind _ (by rfl) fun controlPort => ?_
    apply ClientSettings.follows_load.map

/-- Loading succeeds exactly when the rules of the mode are met, and otherwise fails as the first
rule says that is broken.  What is loaded are the settings of the mode, each with the meaning of its
variable or with what holds when that is unset, and nothing but the variables of the mode
matters. -/
theorem load_decided (mode : Mode) (vars : Variables) :
  ((∃ s, load mode vars = .ok s) ↔ ∀ r ∈ rules mode, r.Met vars) ∧
  (∀ e, load mode vars = .error e ↔
    ∃ before r after, rules mode = before ++ r :: after ∧ (∀ b ∈ before, b.Met vars) ∧
      r.Broken vars e) ∧
  (∀ s, load mode vars = .ok s ↔ s.Held mode vars) ∧
  ∀ vars', (∀ r ∈ rules mode, vars'.get? r.name = vars.get? r.name) →
    load mode vars' = load mode vars
  := by
  have follows := follows_load mode
  refine ⟨follows.exists_ok_iff vars, follows.eq_error_iff vars, fun s => load_eq_ok_iff, ?_⟩
  intro vars'
  apply follows.congr

-- The variables that the server cannot do without.
example :
  ((rules .server).filter Rule.isRequired).map Rule.name =
    ["NERF_ORGANIZATION", "NERF_GITHUB_TOKEN", "NERF_LIGHTHOUSE"]
  := rfl

end Settings

end MeshOnboard
