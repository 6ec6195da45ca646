import Mathlib.Data.Fintype.Pi
import NtsTimeServer.Lib.Bytes
import NtsTimeServer.Lib.KeyStore
import NtsTimeServer.Model.Types

/-!
# The device configuration

`device_config.c`: one record in memory, kept in NVS under thirteen keys of one namespace. A buffer of
characters is the string that it holds. NVS can be read; its answers to writes are a parameter.
-/

namespace NtsTimeServer.Model
open Lib

def appDeviceConfigSchemaVersion : UInt32 := 3
def appDeviceHostnameMaxLength : Nat := 63
def appCloudflareZoneNameMaxLength : Nat := 253
def appCloudflareZoneIdLength : Nat := 32
def appCloudflareApiTokenMaxLength : Nat := 512
def appNtpPeerMaxCount : Nat := 4
def appNtpPeerServerMaxLength : Nat := 253
def appNtpPeerPollMinSeconds : UInt32 := 4
def appNtpPeerPollMaxSeconds : UInt32 := 3600
def appNtpPeerPollDefaultSeconds : UInt32 := 16
def appNtpPeerTimeoutMinMs : UInt32 := 250
def appNtpPeerTimeoutMaxMs : UInt32 := 10000
def appNtpPeerTimeoutDefaultMs : UInt32 := 2000

def isalnum (c : UInt8) : Bool :=
  (0x30 ≤ c && c ≤ 0x39) || (0x41 ≤ c && c ≤ 0x5A) || (0x61 ≤ c && c ≤ 0x7A)

def isxdigit (c : UInt8) : Bool :=
  (0x30 ≤ c && c ≤ 0x39) || (0x41 ≤ c && c ≤ 0x46) || (0x61 ≤ c && c ≤ 0x66)

def tolower (c : UInt8) : UInt8 := if 0x41 ≤ c ∧ c ≤ 0x5A then c + 0x20 else c

def lowercase (value : Bytes) : Bytes := value.map tolower

/-- What `snprintf` with `"%s"` leaves in a buffer of `size` bytes. -/
def formatted (size : Nat) (text : Bytes) : Bytes := text.take (size - 1)

/-! ## Validation -/

def deviceConfigHostnameIsValid (hostname : Bytes) : Bool :=
  if hostname.length = 0 ∨ hostname.length > appDeviceHostnameMaxLength then false
  else if ¬isalnum (hostname.headD 0) ∨ ¬isalnum (hostname.getLastD 0) then false
  else hostname.all fun c => isalnum c || c == 0x2D

/-- The loop of `device_config_cloudflare_zone_is_valid` over the rest of a name. -/
def zoneLabelsAreValid (labelLen : Nat) (labelFirst : Bool) (previous : UInt8) : Bytes → Bool
  | [] => labelLen > 0 && previous != 0x2D
  | c :: rest =>
      if c = 0x2E then
        if labelLen = 0 ∨ previous = 0x2D then false else zoneLabelsAreValid 0 true 0x2E rest
      else if ¬isalnum c ∧ c ≠ 0x2D then false
      else if labelFirst ∧ c = 0x2D then false
      else if labelLen + 1 > 63 then false
      else zoneLabelsAreValid (labelLen + 1) false c rest

def deviceConfigCloudflareZoneIsValid (zoneName : Bytes) : Bool :=
  if zoneName.length = 0 ∨ zoneName.length > appCloudflareZoneNameMaxLength then false
  else if zoneName.headD 0 = 0x2E ∨ zoneName.getLastD 0 = 0x2E then false
  else zoneLabelsAreValid 0 true 0 zoneName

def deviceConfigNtpPeerServerIsValid (server : Bytes) : Bool :=
  if server.length = 0 ∨ server.length > appNtpPeerServerMaxLength then false
  else if server.headD 0 = 0x2E ∨ server.getLastD 0 = 0x2E then false
  else server.all fun c => isalnum c || c == 0x2D || c == 0x2E

def apiTokenIsValid (token : Bytes) : Bool :=
  if token.length < 20 ∨ token.length > appCloudflareApiTokenMaxLength then false
  else token.all fun c => 0x20 < c && c < 0x7F

def zoneIdIsValid (zoneId : Bytes) : Bool :=
  if zoneId.length ≠ appCloudflareZoneIdLength then false else zoneId.all isxdigit

structure DeviceConfigNtpPeer where
  enabled : Bool
  server : Bytes
  deriving DecidableEq, Repr

structure StoredConfig where
  schemaVersion : UInt32
  generation : UInt32
  hostname : Bytes
  cloudflareConfigured : Bool
  cloudflareZoneName : Bytes
  cloudflareZoneId : Bytes
  cloudflareApiToken : Bytes
  ntpPeerMonitorEnabled : Bool
  ntpPeerPollIntervalSeconds : UInt32
  ntpPeerResponseTimeoutMs : UInt32
  ntpPeers : Fin appNtpPeerMaxCount → DeviceConfigNtpPeer
  deriving DecidableEq

def StoredConfig.zero : StoredConfig := ⟨0, 0, [], false, [], [], [], false, 0, 0, fun _ => ⟨false, []⟩⟩

/-- `make_default_config`; `defaultHostname` is `APP_DEVICE_HOSTNAME_DEFAULT`. -/
def makeDefaultConfig (defaultHostname : Bytes) : StoredConfig :=
  { StoredConfig.zero with
    schemaVersion := appDeviceConfigSchemaVersion
    generation := 1
    hostname := lowercase (formatted (appDeviceHostnameMaxLength + 1) defaultHostname)
    ntpPeerMonitorEnabled := false
    ntpPeerPollIntervalSeconds := appNtpPeerPollDefaultSeconds
    ntpPeerResponseTimeoutMs := appNtpPeerTimeoutDefaultMs }

/-! ## NVS -/

inductive ConfigKey
  | schema | generation | hostname | cfZoneName | cfZoneId | cfApiToken
  | peerEnabled | peerPoll | peerTimeout | peer (index : Fin appNtpPeerMaxCount)
  deriving DecidableEq, Repr

inductive NvsValue
  | u8 (value : UInt8)
  | u32 (value : UInt32)
  | str (text : Bytes)
  deriving DecidableEq, Repr

abbrev ConfigEntries := ConfigKey → Option NvsValue

abbrev ConfigWrite := ConfigEntries → ConfigEntries

def nvsGetU8 (entries : ConfigEntries) (key : ConfigKey) : Except EspErr UInt8 :=
  match entries key with
  | some (.u8 value) => .ok value
  | some _ => .error .nvsTypeMismatch
  | none => .error .notFound

def nvsGetU32 (entries : ConfigEntries) (key : ConfigKey) : Except EspErr UInt32 :=
  match entries key with
  | some (.u32 value) => .ok value
  | some _ => .error .nvsTypeMismatch
  | none => .error .notFound

/-- `nvs_get_str` into a buffer of `size` bytes, and `read_string`. -/
def nvsGetStr (entries : ConfigEntries) (key : ConfigKey) (size : Nat) : Except EspErr Bytes :=
  match entries key with
  | some (.str text) => if text.length + 1 ≤ size then .ok text else .error .nvsInvalidLength
  | some _ => .error .nvsTypeMismatch
  | none => .error .notFound

/-- The results of the NVS calls of a write: `nvs_open`, the call under each key, and `nvs_commit`. -/
structure NvsAnswers where
  opened : EspErr
  written : ConfigKey → EspErr
  committed : EspErr

/-- All NVS calls work; `nvs_erase_key` finds nothing under a key without an entry. -/
def NvsAnswers.working : NvsAnswers := ⟨.ok, fun _ => .ok, .ok⟩

/-- What a configuration leaves under a key. Its peer servers are stored where they are enabled. -/
def configEntry (config : StoredConfig) : ConfigKey → Option NvsValue
  | .schema => some (.u32 config.schemaVersion)
  | .generation => some (.u32 config.generation)
  | .hostname => some (.str config.hostname)
  | .cfZoneName => if config.cloudflareConfigured then some (.str config.cloudflareZoneName) else none
  | .cfZoneId => if config.cloudflareConfigured then some (.str config.cloudflareZoneId) else none
  | .cfApiToken => if config.cloudflareConfigured then some (.str config.cloudflareApiToken) else none
  | .peerEnabled => some (.u8 (if config.ntpPeerMonitorEnabled then 1 else 0))
  | .peerPoll => some (.u32 config.ntpPeerPollIntervalSeconds)
  | .peerTimeout => some (.u32 config.ntpPeerResponseTimeoutMs)
  | .peer index =>
      if (config.ntpPeers index).enabled ∧ (config.ntpPeers index).server ≠ [] then
        some (.str (config.ntpPeers index).server)
      else none

/-- The result of the call under a key as `persist_config` takes it: an erased key may be absent. -/
def NvsAnswers.result (nvs : NvsAnswers) (config : StoredConfig) (key : ConfigKey) : EspErr :=
  if configEntry config key = none ∧ nvs.written key = .notFound then .ok else nvs.written key

structure Attempts where
  err : EspErr
  keys : List ConfigKey
  deriving DecidableEq, Repr

def attempt (result : ConfigKey → EspErr) : List ConfigKey → Attempts
  | [] => ⟨.ok, []⟩
  | key :: rest =>
      if result key = .ok then ⟨(attempt result rest).err, key :: (attempt result rest).keys⟩
      else ⟨result key, [key]⟩

/-- Calls that are all made, with the error of the first that fails. -/
def attemptAll (result : ConfigKey → EspErr) (keys : List ConfigKey) : Attempts :=
  ⟨(attempt result keys).err, keys⟩

def Attempts.andThen (first second : Attempts) : Attempts :=
  if first.err = .ok then ⟨second.err, first.keys ++ second.keys⟩ else first

def headKeys : List ConfigKey := [.schema, .generation, .hostname]
def cloudflareKeys : List ConfigKey := [.cfZoneName, .cfZoneId, .cfApiToken]
def monitorKeys : List ConfigKey := [.peerEnabled, .peerPoll, .peerTimeout]
def peerKeys : List ConfigKey := (List.finRange appNtpPeerMaxCount).map .peer

def persistConfig (nvs : NvsAnswers) (config : StoredConfig) : Attempts :=
  let result := nvs.result config
  if nvs.opened ≠ .ok then ⟨nvs.opened, []⟩
  else
    (attempt result headKeys).andThen <|
      -- the three erasures do not wait for one another
      Attempts.andThen (if config.cloudflareConfigured then attempt result cloudflareKeys
        else attemptAll result cloudflareKeys) <|
      (attempt result monitorKeys).andThen <|
      (attempt result peerKeys).andThen ⟨nvs.committed, []⟩

def configWrites (config : StoredConfig) (keys : List ConfigKey) : List ConfigWrite :=
  keys.map (putEntry (configEntry config))

/-! ## Loading -/

inductive Loaded
  | failed (err : EspErr)
  | needsDefault
  | loaded (config : StoredConfig)
  deriving DecidableEq

def migrated (nvs : NvsAnswers) (config : StoredConfig) : Loaded × List ConfigWrite :=
  let attempts := persistConfig nvs config
  (if attempts.err = .ok then .loaded config else .failed attempts.err,
    configWrites config attempts.keys)

def loadedHead (generation : UInt32) (hostname : Bytes) : StoredConfig :=
  { StoredConfig.zero with
    schemaVersion := appDeviceConfigSchemaVersion
    generation := generation
    hostname := lowercase hostname
    ntpPeerMonitorEnabled := false
    ntpPeerPollIntervalSeconds := appNtpPeerPollDefaultSeconds
    ntpPeerResponseTimeoutMs := appNtpPeerTimeoutDefaultMs }

def loadCloudflare (entries : ConfigEntries) (config : StoredConfig) : StoredConfig :=
  match nvsGetStr entries .cfZoneName (appCloudflareZoneNameMaxLength + 1),
      nvsGetStr entries .cfZoneId (appCloudflareZoneIdLength + 1),
      nvsGetStr entries .cfApiToken (appCloudflareApiTokenMaxLength + 1) with
  | .ok zoneName, .ok zoneId, .ok token =>
      if deviceConfigCloudflareZoneIsValid zoneName ∧ zoneIdIsValid zoneId ∧ apiTokenIsValid token then
        { config with
          cloudflareConfigured := true
          cloudflareZoneName := formatted (appCloudflareZoneNameMaxLength + 1) (lowercase zoneName)
          cloudflareZoneId := formatted (appCloudflareZoneIdLength + 1) zoneId
          cloudflareApiToken := formatted (appCloudflareApiTokenMaxLength + 1) token }
      else config
  | _, _, _ => config

def loadPeer (entries : ConfigEntries) (index : Fin appNtpPeerMaxCount) : DeviceConfigNtpPeer :=
  match nvsGetStr entries (.peer index) (appNtpPeerServerMaxLength + 1) with
  | .ok server =>
      if deviceConfigNtpPeerServerIsValid server then ⟨true, lowercase server⟩ else ⟨false, []⟩
  | .error _ => ⟨false, []⟩

/-- A value that is out of its range, or is not there, leaves the one in the record. -/
def valueInRange (read : Except EspErr UInt32) (least greatest initial present : UInt32) : UInt32 :=
  let value := match read with
    | .ok value => value
    | .error _ => initial
  if least ≤ value ∧ value ≤ greatest then value else present

def loadPeerMonitor (entries : ConfigEntries) (config : StoredConfig) : StoredConfig :=
  { config with
    ntpPeers := loadPeer entries
    ntpPeerMonitorEnabled := match nvsGetU8 entries .peerEnabled with
      | .ok value => value != 0
      | .error _ => false
    ntpPeerPollIntervalSeconds := valueInRange (nvsGetU32 entries .peerPoll) appNtpPeerPollMinSeconds
      appNtpPeerPollMaxSeconds appNtpPeerPollDefaultSeconds config.ntpPeerPollIntervalSeconds
    ntpPeerResponseTimeoutMs := valueInRange (nvsGetU32 entries .peerTimeout) appNtpPeerTimeoutMinMs
      appNtpPeerTimeoutMaxMs appNtpPeerTimeoutDefaultMs config.ntpPeerResponseTimeoutMs }

/-- `load_config`, with what it writes. There is no namespace before the first write. -/
def loadConfig (nvs : NvsAnswers) (stored : Option ConfigEntries) : Loaded × List ConfigWrite :=
  match stored with
  | none => (.needsDefault, [])
  | some entries =>
      let hostname := nvsGetStr entries .hostname (appDeviceHostnameMaxLength + 1)
      match nvsGetU32 entries .schema with
      | .error .notFound =>
          match hostname with
          | .ok hostname =>
              if deviceConfigHostnameIsValid hostname then migrated nvs (loadedHead 1 hostname)
              else (.needsDefault, [])
          | .error _ => (.needsDefault, [])
      | .error err => (.failed err, [])
      | .ok schema =>
          if schema ≠ 1 ∧ schema ≠ 2 ∧ schema ≠ appDeviceConfigSchemaVersion then
            (.failed .invalidVersion, [])
          else match nvsGetU32 entries .generation, hostname with
            | .ok generation, .ok hostname =>
                if generation = 0 ∨ ¬deviceConfigHostnameIsValid hostname then (.needsDefault, [])
                else
                  let config := loadedHead generation hostname
                  if schema = 1 then migrated nvs config
                  else
                    let config := loadCloudflare entries config
                    if schema = 2 then migrated nvs config
                    else (.loaded (loadPeerMonitor entries config), [])
            | _, _ => (.needsDefault, [])

/-- `s_config` once initialised, and the namespace. -/
structure ConfiguredDevice where
  config : StoredConfig
  entries : ConfigEntries

def entriesAfter (stored : Option ConfigEntries) (writes : List ConfigWrite) : ConfigEntries :=
  applyAll writes (stored.getD fun _ => none)

def deviceConfigInit (nvs : NvsAnswers) (defaultHostname : Bytes) (stored : Option ConfigEntries) :
    Except EspErr ConfiguredDevice :=
  if ¬deviceConfigHostnameIsValid defaultHostname then .error .invalidArg
  else match loadConfig nvs stored with
    | (.failed err, _) => .error err
    | (.loaded config, writes) => .ok ⟨config, entriesAfter stored writes⟩
    | (.needsDefault, writes) =>
        let config := makeDefaultConfig defaultHostname
        let attempts := persistConfig nvs config
        if attempts.err ≠ .ok then .error attempts.err
        else .ok ⟨config, entriesAfter stored (writes ++ configWrites config attempts.keys)⟩

/-! ## The setters -/

def nextGeneration (generation : UInt32) : UInt32 :=
  if generation + 1 = 0 then 1 else generation + 1

/-- What a setter returns, the configuration in memory then, the one it installs, and the keys that it
writes for it. -/
structure SetterResult where
  err : EspErr
  config : StoredConfig
  installing : StoredConfig
  keys : List ConfigKey

def setterReturns (config : StoredConfig) (err : EspErr) : SetterResult := ⟨err, config, config, []⟩

/-- The end of every setter: the candidate is persisted, and then replaces the configuration. -/
def commitCandidate (nvs : NvsAnswers) (config candidate : StoredConfig) : SetterResult :=
  let attempts := persistConfig nvs candidate
  ⟨attempts.err, if attempts.err = .ok then candidate else config, candidate, attempts.keys⟩

/-- An argument `none` is a null pointer, here and below. -/
def deviceConfigSetHostname (nvs : NvsAnswers) (config : StoredConfig) (hostname : Option Bytes) :
    SetterResult :=
  match hostname with
  | none => setterReturns config .invalidArg
  | some hostname =>
      if ¬deviceConfigHostnameIsValid hostname then setterReturns config .invalidArg
      else
        let normalized := lowercase (formatted (appDeviceHostnameMaxLength + 1) hostname)
        if normalized = config.hostname then setterReturns config .ok
        else commitCandidate nvs config
          { config with
            hostname := formatted (appDeviceHostnameMaxLength + 1) normalized
            generation := nextGeneration config.generation }

def deviceConfigSetCloudflare (nvs : NvsAnswers) (config : StoredConfig)
    (apiToken zoneName zoneId : Option Bytes) : SetterResult :=
  match apiToken, zoneName, zoneId with
  | some apiToken, some zoneName, some zoneId =>
      if ¬apiTokenIsValid apiToken ∨ ¬deviceConfigCloudflareZoneIsValid zoneName ∨
          ¬zoneIdIsValid zoneId then setterReturns config .invalidArg
      else
        let normalizedZone := lowercase (formatted (appCloudflareZoneNameMaxLength + 1) zoneName)
        commitCandidate nvs config
          { config with
            cloudflareConfigured := true
            cloudflareZoneName := formatted (appCloudflareZoneNameMaxLength + 1) normalizedZone
            cloudflareZoneId := formatted (appCloudflareZoneIdLength + 1) zoneId
            cloudflareApiToken := formatted (appCloudflareApiTokenMaxLength + 1) apiToken
            generation := nextGeneration config.generation }
  | _, _, _ => setterReturns config .invalidArg

def deviceConfigClearCloudflare (nvs : NvsAnswers) (config : StoredConfig) : SetterResult :=
  if ¬config.cloudflareConfigured then setterReturns config .ok
  else commitCandidate nvs config
    { config with
      cloudflareConfigured := false
      cloudflareZoneName := []
      cloudflareZoneId := []
      cloudflareApiToken := []
      generation := nextGeneration config.generation }

def monitorValuesAreValid (pollIntervalSeconds responseTimeoutMs : UInt32) : Bool :=
  appNtpPeerPollMinSeconds ≤ pollIntervalSeconds && pollIntervalSeconds ≤ appNtpPeerPollMaxSeconds &&
    appNtpPeerTimeoutMinMs ≤ responseTimeoutMs && responseTimeoutMs ≤ appNtpPeerTimeoutMaxMs

def peersAreValid (peers : Fin appNtpPeerMaxCount → DeviceConfigNtpPeer) : Bool :=
  (List.finRange appNtpPeerMaxCount).all fun index =>
    !(peers index).enabled || deviceConfigNtpPeerServerIsValid (peers index).server

def candidatePeer (peer : DeviceConfigNtpPeer) : DeviceConfigNtpPeer :=
  if peer.enabled then ⟨true, lowercase (formatted (appNtpPeerServerMaxLength + 1) peer.server)⟩
  else ⟨false, []⟩

def deviceConfigSetNtpPeerMonitor (nvs : NvsAnswers) (config : StoredConfig) (enabled : Bool)
    (pollIntervalSeconds responseTimeoutMs : UInt32)
    (peers : Option (Fin appNtpPeerMaxCount → DeviceConfigNtpPeer)) : SetterResult :=
  match peers with
  | none => setterReturns config .invalidArg
  | some peers =>
      if ¬monitorValuesAreValid pollIntervalSeconds responseTimeoutMs ∨ ¬peersAreValid peers then
        setterReturns config .invalidArg
      else commitCandidate nvs config
        { config with
          ntpPeerMonitorEnabled := enabled
          ntpPeerPollIntervalSeconds := pollIntervalSeconds
          ntpPeerResponseTimeoutMs := responseTimeoutMs
          ntpPeers := fun index => candidatePeer (peers index)
          generation := nextGeneration config.generation }

inductive SetterCall
  | setHostname (hostname : Option Bytes)
  | setCloudflare (apiToken zoneName zoneId : Option Bytes)
  | clearCloudflare
  | setNtpPeerMonitor (enabled : Bool) (pollIntervalSeconds responseTimeoutMs : UInt32)
      (peers : Option (Fin appNtpPeerMaxCount → DeviceConfigNtpPeer))

def SetterCall.run (nvs : NvsAnswers) (config : StoredConfig) : SetterCall → SetterResult
  | .setHostname hostname => deviceConfigSetHostname nvs config hostname
  | .setCloudflare apiToken zoneName zoneId =>
      deviceConfigSetCloudflare nvs config apiToken zoneName zoneId
  | .clearCloudflare => deviceConfigClearCloudflare nvs config
  | .setNtpPeerMonitor enabled pollIntervalSeconds responseTimeoutMs peers =>
      deviceConfigSetNtpPeerMonitor nvs config enabled pollIntervalSeconds responseTimeoutMs peers

def ConfiguredDevice.call (device : ConfiguredDevice) (nvs : NvsAnswers) (call : SetterCall) :
    ConfiguredDevice :=
  let result := call.run nvs device.config
  ⟨result.config, applyAll (configWrites result.installing result.keys) device.entries⟩

def ConfiguredDevice.calls (device : ConfiguredDevice) (nvs : NvsAnswers) (calls : List SetterCall) :
    ConfiguredDevice :=
  calls.foldl (fun device call => device.call nvs call) device

end NtsTimeServer.Model
