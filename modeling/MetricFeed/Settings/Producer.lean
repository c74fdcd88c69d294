/-
MetricFeed/Settings/Producer.lean

The settings of the producer client: a map of properties.  Values that are given always win;
defaults are filled in only under keys that are absent.
-/
import MetricFeed.Notice
import MetricFeed.Settings.Lookup

namespace MetricFeed

/-- The settings of the producer client. -/
structure ProducerSettings where
  properties : TextMap := TextMap.empty
  deriving DecidableEq, Inhabited

namespace ProducerSettings

/-! ### Keys and defaults -/

def bootstrapServers : String := "bootstrap.servers"
def securityProtocol : String := "security.protocol"
def clientId : String := "client.id"
def lingerMs : String := "linger.ms"
def batchSize : String := "batch.size"
def retries : String := "retries"
def compressionType : String := "compression.type"
def keySerializer : String := "key.serializer"
def valueSerializer : String := "value.serializer"
def acks : String := "acks"

/-- The property that names the port of the local broker. -/
def portProperty : String := "port"

/-- The keys that may be set. -/
def keys : List String :=
  [bootstrapServers, securityProtocol, clientId, lingerMs, batchSize, retries, compressionType,
    keySerializer, valueSerializer, acks]

/-- The property under which the setting of a key is looked up. -/
def property (key : String) : String := "metrics.reporter." ++ key

def defaultLingerMs : Nat := 500
def defaultBatchSize : Nat := 800000
def defaultRetries : Nat := 5
def defaultPort : Nat := 9092
def defaultSecurityProtocol : String := "PLAINTEXT"

/-- The defaults that do not depend on other settings. -/
def fixedDefaults : List (String × String) :=
  [(clientId, "metrics-reporter"), (lingerMs, toString defaultLingerMs),
    (batchSize, toString defaultBatchSize), (retries, toString defaultRetries),
    (compressionType, "gzip"), (keySerializer, "string"), (valueSerializer, "json"),
    (acks, "all")]

/-! ### Access -/

def get? (s : ProducerSettings) (key : String) : Option String :=
  s.properties.get? key

def contains (s : ProducerSettings) (key : String) : Bool :=
  s.properties.contains key

/-- Fills in a value under a key that is absent. -/
def setIfAbsent (s : ProducerSettings) (key value : String) : ProducerSettings :=
  if s.contains key then s else ⟨s.properties.insert key value⟩

/-- The number under a key, or a default if there is none to be read. -/
def number (s : ProducerSettings) (kind : Text.IntegerKind) (key : String) (default : Nat) :
    Nat :=
  match s.get? key with
  | none => default
  | some text =>
    match Text.readInteger kind (Text.trim text) with
    | .ok n => n.toNat
    | .error _ => default

def linger (s : ProducerSettings) : Nat := s.number .u64 lingerMs defaultLingerMs
def batch (s : ProducerSettings) : Nat := s.number .u32 batchSize defaultBatchSize
def retryCount (s : ProducerSettings) : Nat := s.number .u32 retries defaultRetries

/-! ### Validation -/

/-- Refuses a value that is no number of the kind. -/
def checkNumber (s : ProducerSettings) (kind : Text.IntegerKind) (key : String) :
    Except SettingFault Unit :=
  match s.get? key with
  | none => .ok ()
  | some text =>
    match Text.readInteger kind (Text.trim text) with
    | .ok _ => .ok ()
    | .error _ => .error (.invalidValue key text "not a valid non-negative integer")

/-- The ways of acknowledgement. -/
def admittedAcks : List String := ["all", "-1", "0", "1"]

/-- Refuses an unknown way of acknowledgement. -/
def checkAcks (s : ProducerSettings) : Except SettingFault Unit :=
  match s.get? acks with
  | none => .ok ()
  | some text =>
    if text ∈ admittedAcks then .ok ()
    else .error (.invalidValue acks text "must be one of all, -1, 0, 1")

/-- Refuses settings with a value that no client takes. -/
def validate (s : ProducerSettings) : Except SettingFault Unit := do
  s.checkNumber .u64 lingerMs
  s.checkNumber .u32 batchSize
  s.checkNumber .u32 retries
  s.checkAcks

/-! ### Loading -/

/-- The settings that are given. -/
def given (l : Lookup) : ProducerSettings :=
  keys.foldl
    (fun s key =>
      match l (property key) with
      | some value => ⟨s.properties.insert key value⟩
      | none => s)
    {}

/-- The address of the local broker. -/
def localAddress (l : Lookup) : Except SettingFault String := do
  let port ← l.integerOr .u16 portProperty defaultPort
  return "localhost:" ++ toString port

/-- The given settings with the address of the local broker where no address is given, and
whether it was needed. -/
def withAddress (l : Lookup) (s : ProducerSettings) :
    Except SettingFault (ProducerSettings × List Notice) :=
  if s.contains bootstrapServers then .ok (s, [])
  else do
    let address ← localAddress l
    return (s.setIfAbsent bootstrapServers address, [.defaultUsed bootstrapServers address])

/-- The settings with the default protocol where none is given, and whether it was needed. -/
def withProtocol (s : ProducerSettings) : ProducerSettings × List Notice :=
  if s.contains securityProtocol then (s, [])
  else
    (s.setIfAbsent securityProtocol defaultSecurityProtocol,
      [.defaultUsed securityProtocol defaultSecurityProtocol])

/-- The settings with all other defaults. -/
def withFixedDefaults (s : ProducerSettings) : ProducerSettings :=
  fixedDefaults.foldl (fun s entry => s.setIfAbsent entry.1 entry.2) s

/-- Loads the settings, with what is said in the log on the way. -/
def loadNoting (l : Lookup) : List Notice × Except SettingFault ProducerSettings :=
  match withAddress l (given l) with
  | .error fault => ([], .error fault)
  | .ok (addressed, noticesOfAddress) =>
    let (secured, noticesOfProtocol) := withProtocol addressed
    let settings := withFixedDefaults secured
    (noticesOfAddress ++ noticesOfProtocol, settings.validate.map fun _ => settings)

/-- Loads the settings. -/
def load (l : Lookup) : Except SettingFault ProducerSettings :=
  (loadNoting l).2

end ProducerSettings

end MetricFeed
