import MeshOnboard.Settings.Basic

/-!
# The variables of the settings

A `Setting` is a variable with what its texts mean, how its values are written and what holds when
it is unset.  There is one for each part of the settings.  `Setting.rule` is what the variable is
held to, whatever its meaning; the rules of a mode, in the order in which they are looked at, are
`Settings.rules`.  `Settings.entries` writes settings back into their variables.
-/

namespace MeshOnboard

/-- A variable and what its texts mean. -/
structure Setting (α : Type) where
  name : String
  /-- What a text is expected to be. -/
  expected : String
  /-- The meaning of a text. -/
  read? : List Char → Option α
  /-- The text of a value; there is none for a value that only an unset variable has. -/
  write? : α → Option (List Char)
  /-- What holds when the variable is unset; without it the variable has to be set. -/
  fallback? : Option α

/-- What a variable is held to. -/
structure Rule where
  name : String
  expected : String
  /-- Whether the variable has to be set. -/
  isRequired : Bool
  /-- Whether a text is as expected. -/
  accepts : List Char → Bool

namespace Setting

variable {α : Type}

/-- The value of a setting. -/
def load (s : Setting α) (vars : Variables) : Except SettingsError α :=
  match vars.get? s.name, s.fallback? with
  | some value, _ => Variables.interpret s.name s.expected s.read? value
  | none, some a => .ok a
  | none, none => .error (.missing s.name)

/-- What the variable of a setting is held to. -/
def rule (s : Setting α) : Rule :=
  ⟨s.name, s.expected, s.fallback?.isNone, fun cs => (s.read? cs).isSome⟩

/-- The variable of a setting with the text of a value. -/
def entry (s : Setting α) (a : α) : String × Option String :=
  (s.name, (s.write? a).map String.ofList)

/-! ### Kinds of settings -/

/-- A text, which is taken as it is. -/
def text (name : String) (fallback? : Option String) : Setting String :=
  ⟨name, "a text", fun cs => some (String.ofList cs), fun a => some a.toList, fallback?⟩

/-- A path, which is taken as it is. -/
def path (name : String) (fallback : Path) : Setting Path :=
  ⟨name, "a path", fun cs => some ⟨cs⟩, fun a => some a.chars, some fallback⟩

/-- A socket address. -/
def address (name : String) (fallback : SocketAddress) : Setting SocketAddress :=
  ⟨name, "a socket address", SocketAddress.read?, fun a => some a.text, some fallback⟩

/-- A value that a number below a bound stands for. -/
def number (name expected : String) (bound : Nat) (ofNat : Nat → α) (toNat : α → Nat)
    (fallback : Nat) : Setting α :=
  ⟨name, expected, fun cs => (Numeral.count? bound cs).map ofNat,
    fun a => some (Numeral.decimal (toNat a)), some (ofNat fallback)⟩

/-- A duration in seconds. -/
def seconds (name : String) (fallback : Nat) : Setting Duration :=
  number name "a positive integer" UInt64.size (fun n => .ofSeconds n.toUInt64)
    (fun d => d.seconds.toNat) fallback

/-- A duration in milliseconds. -/
def millis (name : String) (fallback : Nat) : Setting Duration :=
  number name "a positive integer" UInt64.size (fun n => .ofMillis n.toUInt64)
    Duration.toMillis fallback

/-! ### The settings -/

def logLevel : Setting String := text "NERF_LOG_LEVEL" (some "info")

def controlPort : Setting UInt16 :=
  number "NERF_CONTROL_PORT" "a valid port number (0-65535)" UInt16.size Nat.toUInt16 UInt16.toNat
    9000

/-- By default the server listens on its control port at every address. -/
def listenAddress (controlPort : UInt16) : Setting SocketAddress :=
  address "NERF_LISTEN_ADDR" (.v4 (.ofOctets 0 0 0 0) controlPort)

def organization : Setting String := text "NERF_ORGANIZATION" none

def directoryToken : Setting String := text "NERF_GITHUB_TOKEN" none

def directoryUrl : Setting String :=
  text "NERF_GITHUB_API_URL" (some ServerSettings.defaultDirectoryUrl)

def pageSize : Setting UInt32 :=
  number "NERF_DIRECTORY_PAGE_SIZE" "a positive integer" UInt32.size Nat.toUInt32 UInt32.toNat 500

def syncInterval : Setting Duration := seconds "NERF_SYNC_INTERVAL_SECONDS" 10

def cacheTtl : Setting Duration := seconds "NERF_CACHE_TTL_SECONDS" 3600

def lighthouse : Setting Lighthouse :=
  ⟨"NERF_LIGHTHOUSE", "<NebulaIP>:<PublicIP>", Lighthouse.read?, fun a => some a.text, none⟩

def subnet : Setting Subnet :=
  ⟨"NERF_NEBULA_SUBNET", "an IPv4 CIDR", Subnet.read?, fun a => some a.text,
    some ServerSettings.defaultSubnet⟩

def signer : Setting Path := path "NERF_NEBULA_CERT_BIN" "/usr/local/nebula/nebula-cert"

def certificateDir : Setting Path := path "NERF_CERT_DIR" "/etc/nebula/certs"

def certificateDuration : Setting String := text "NERF_CERT_DURATION" (some "48h")

def metricsAddress : Setting (Option SocketAddress) :=
  ⟨"NERF_METRICS_ADDR", "a socket address", fun cs => (SocketAddress.read? cs).map some,
    fun a => a.map SocketAddress.text, some none⟩

def zone : Setting String := text "NERF_DNS_ZONE" none

def nameServer : Setting SocketAddress :=
  address "NERF_DNS_SERVER" (.v4 (.ofOctets 1 1 1 1) 53)

def lookupTimeout : Setting Duration := seconds "NERF_DNS_TIMEOUT_SECONDS" 3

def probeTimeout : Setting Duration := millis "NERF_PROBE_TIMEOUT_MS" 1000

def discoveryDeadline : Setting Duration := millis "NERF_DISCOVERY_DEADLINE_MS" 5000

def callTimeout : Setting Duration := millis "NERF_RPC_TIMEOUT_MS" 10000

def login : Setting String := text "NERF_LOGIN" none

def token : Setting String := text "NERF_TOKEN" none

def overlayDir : Setting Path := path "NERF_NEBULA_DIR" "/opt/nebula"

/-- By default the daemon lies in the overlay directory. -/
def daemon (overlayDir : Path) : Setting Path :=
  path "NERF_NEBULA_BIN" (overlayDir.join "nebula")

end Setting

namespace Settings

/-- What the variables are held to that every mode reads. -/
def commonRules : List Rule := [Setting.logLevel.rule, Setting.controlPort.rule]

/-- What the variables of the server are held to. -/
def serverRules : List Rule :=
  [(Setting.listenAddress 0).rule, Setting.organization.rule, Setting.directoryToken.rule,
    Setting.directoryUrl.rule, Setting.pageSize.rule, Setting.syncInterval.rule,
    Setting.cacheTtl.rule, Setting.lighthouse.rule, Setting.subnet.rule, Setting.signer.rule,
    Setting.certificateDir.rule, Setting.certificateDuration.rule, Setting.metricsAddress.rule]

/-- What the variables of the client are held to. -/
def clientRules : List Rule :=
  [Setting.overlayDir.rule, (Setting.daemon "").rule, Setting.zone.rule, Setting.nameServer.rule,
    Setting.lookupTimeout.rule, Setting.probeTimeout.rule, Setting.discoveryDeadline.rule,
    Setting.callTimeout.rule, Setting.login.rule, Setting.token.rule]

/-- What the variables of a mode are held to, in the order in which they are looked at. -/
def rules : Mode → List Rule
  | .server => commonRules ++ serverRules
  | .client => commonRules ++ clientRules

/-- The settings of the server in their variables. -/
def serverEntries (s : ServerSettings) : List (String × Option String) :=
  [(Setting.listenAddress 0).entry s.listenAddress, Setting.organization.entry s.organization,
    Setting.directoryToken.entry s.directoryToken, Setting.directoryUrl.entry s.directoryUrl,
    Setting.pageSize.entry s.pageSize, Setting.syncInterval.entry s.syncInterval,
    Setting.cacheTtl.entry s.cacheTtl, Setting.lighthouse.entry s.lighthouse,
    Setting.subnet.entry s.subnet, Setting.signer.entry s.signer,
    Setting.certificateDir.entry s.certificateDir,
    Setting.certificateDuration.entry s.certificateDuration,
    Setting.metricsAddress.entry s.metricsAddress]

/-- The settings of the client in their variables. -/
def clientEntries (c : ClientSettings) : List (String × Option String) :=
  [Setting.overlayDir.entry c.overlayDir, (Setting.daemon "").entry c.daemon,
    Setting.zone.entry c.zone, Setting.nameServer.entry c.nameServer,
    Setting.lookupTimeout.entry c.lookupTimeout, Setting.probeTimeout.entry c.probeTimeout,
    Setting.discoveryDeadline.entry c.discoveryDeadline, Setting.callTimeout.entry c.callTimeout,
    Setting.login.entry c.login, Setting.token.entry c.token]

/-- Settings in their variables. -/
def entries (s : Settings) : List (String × Option String) :=
  Setting.logLevel.entry s.logLevel :: Setting.controlPort.entry s.controlPort ::
    match s.role with
    | .server settings => serverEntries settings
    | .client settings => clientEntries settings

/-- The look-up of settings that are written back into their variables. -/
def write (s : Settings) : Variables := fun name => (s.entries.lookup name).join

end Settings

end MeshOnboard
