import NtsTimeServer.Model.DeviceConfig

/-!
# What the configuration leaves in NVS, and what is read back

A configuration in memory is well formed: the validators accept its fields, and its names are in lower
case. Entries of well-formed configurations, each under its key from a configuration of its own, are
always loaded.
-/

namespace NtsTimeServer.Proof
open Model Lib

theorem tolower_cases (c : UInt8) :
    tolower c = c ∨ 0x41 ≤ c.toNat ∧ c.toNat ≤ 0x5A ∧ (tolower c).toNat = c.toNat + 0x20 := by
  unfold tolower
  split
  next upper =>
    simp only [UInt8.le_iff_toNat_le, UInt8.toNat_ofNat] at upper
    right
    refine ⟨by omega, by omega, ?_⟩
    rw [UInt8.toNat_add]
    simp
    omega
  · exact .inl rfl

@[simp] theorem isalnum_tolower (c : UInt8) : isalnum (tolower c) = isalnum c := by
  obtain same | upper := tolower_cases c
  · rw [same]
  · simp only [isalnum, UInt8.le_iff_toNat_le, UInt8.toNat_ofNat, upper.2.2]
    grind

theorem tolower_tolower (c : UInt8) : tolower (tolower c) = tolower c := by
  obtain same | upper := tolower_cases c
  · rw [same, same]
  · refine if_neg ?_
    simp only [UInt8.le_iff_toNat_le, UInt8.toNat_ofNat, upper.2.2]
    omega

theorem tolower_eq_iff {mark : UInt8} (before : mark.toNat < 0x41) (c : UInt8) :
    tolower c = mark ↔ c = mark := by
  obtain same | upper := tolower_cases c
  · rw [same]
  · rw [← UInt8.toNat_inj, ← UInt8.toNat_inj]
    omega

@[simp] theorem tolower_hyphen (c : UInt8) : tolower c = 0x2D ↔ c = 0x2D :=
  tolower_eq_iff (by decide) c

@[simp] theorem tolower_dot (c : UInt8) : tolower c = 0x2E ↔ c = 0x2E := tolower_eq_iff (by decide) c

@[simp] theorem lowercase_length (value : Bytes) : (lowercase value).length = value.length :=
  List.length_map _

@[simp] theorem lowercase_lowercase (value : Bytes) : lowercase (lowercase value) = lowercase value := by
  simp [lowercase, tolower_tolower]

theorem lowercase_headD (value : Bytes) : (lowercase value).headD 0 = tolower (value.headD 0) := by
  cases value <;> rfl

theorem lowercase_getLastD (value : Bytes) :
    (lowercase value).getLastD 0 = tolower (value.getLastD 0) := by
  cases value using List.reverseRecOn with
  | nil => rfl
  | append_singleton value c => simp [lowercase]

theorem all_lowercase (accepts : UInt8 → Bool) (same : ∀ c, accepts (tolower c) = accepts c)
    (value : Bytes) : (lowercase value).all accepts = value.all accepts := by
  simp [lowercase, List.all_map, Function.comp_def, same]

theorem hostnameIsValid_lowercase (hostname : Bytes) :
    deviceConfigHostnameIsValid (lowercase hostname) = deviceConfigHostnameIsValid hostname := by
  have characters := all_lowercase (fun c => isalnum c || c == 0x2D)
    (fun c => by simp [beq_eq_decide]) hostname
  simp only [deviceConfigHostnameIsValid, lowercase_length, lowercase_headD, lowercase_getLastD,
    isalnum_tolower, characters]

theorem serverIsValid_lowercase (server : Bytes) :
    deviceConfigNtpPeerServerIsValid (lowercase server) = deviceConfigNtpPeerServerIsValid server := by
  have characters := all_lowercase (fun c => isalnum c || c == 0x2D || c == 0x2E)
    (fun c => by simp [beq_eq_decide]) server
  simp only [deviceConfigNtpPeerServerIsValid, lowercase_length, lowercase_headD, lowercase_getLastD,
    tolower_dot, characters]

theorem zoneLabelsAreValid_lowercase (labelLen : Nat) (labelFirst : Bool) (previous : UInt8)
    (rest : Bytes) : zoneLabelsAreValid labelLen labelFirst (tolower previous) (lowercase rest) =
      zoneLabelsAreValid labelLen labelFirst previous rest := by
  induction rest generalizing labelLen labelFirst previous with
  | nil => simp [lowercase, zoneLabelsAreValid, bne, beq_eq_decide]
  | cons c rest ih =>
      have dot := ih 0 true 0x2E
      have next := ih (labelLen + 1) false c
      simp only [lowercase, List.map_cons] at dot next ⊢
      simp only [zoneLabelsAreValid, tolower_dot, tolower_hyphen, isalnum_tolower, ne_eq, next]
      rw [← dot]
      rfl

theorem zoneIsValid_lowercase (zoneName : Bytes) :
    deviceConfigCloudflareZoneIsValid (lowercase zoneName) =
      deviceConfigCloudflareZoneIsValid zoneName := by
  have labels := zoneLabelsAreValid_lowercase 0 true 0 zoneName
  rw [show tolower 0 = 0 from rfl] at labels
  simp only [deviceConfigCloudflareZoneIsValid, lowercase_length, lowercase_headD, lowercase_getLastD,
    tolower_dot, labels]

theorem formatted_eq {size : Nat} {text : Bytes} (fits : text.length + 1 ≤ size) :
    formatted size text = text := List.take_of_length_le (by omega)

theorem hostname_fits {hostname : Bytes} (valid : deviceConfigHostnameIsValid hostname = true) :
    hostname.length + 1 ≤ appDeviceHostnameMaxLength + 1 := by
  grind [deviceConfigHostnameIsValid]

theorem zone_fits {zoneName : Bytes} (valid : deviceConfigCloudflareZoneIsValid zoneName = true) :
    zoneName.length + 1 ≤ appCloudflareZoneNameMaxLength + 1 := by
  grind [deviceConfigCloudflareZoneIsValid]

theorem zoneId_fits {zoneId : Bytes} (valid : zoneIdIsValid zoneId = true) :
    zoneId.length + 1 ≤ appCloudflareZoneIdLength + 1 := by
  grind [zoneIdIsValid]

theorem token_fits {token : Bytes} (valid : apiTokenIsValid token = true) :
    token.length + 1 ≤ appCloudflareApiTokenMaxLength + 1 := by
  grind [apiTokenIsValid]

theorem server_fits {server : Bytes} (valid : deviceConfigNtpPeerServerIsValid server = true) :
    server ≠ [] ∧ server.length + 1 ≤ appNtpPeerServerMaxLength + 1 := by
  grind [deviceConfigNtpPeerServerIsValid]

/-! ## Well-formed configurations -/

structure Peer.WellFormed (peer : DeviceConfigNtpPeer) : Prop where
  enabled : peer.enabled = true →
    deviceConfigNtpPeerServerIsValid peer.server = true ∧ lowercase peer.server = peer.server
  disabled : peer.enabled = false → peer.server = []

structure Config.WellFormed (config : StoredConfig) : Prop where
  schema : config.schemaVersion = appDeviceConfigSchemaVersion
  generation : config.generation ≠ 0
  hostname : deviceConfigHostnameIsValid config.hostname = true
  hostname_lower : lowercase config.hostname = config.hostname
  configured : config.cloudflareConfigured = true →
    deviceConfigCloudflareZoneIsValid config.cloudflareZoneName = true ∧
      lowercase config.cloudflareZoneName = config.cloudflareZoneName ∧
      zoneIdIsValid config.cloudflareZoneId = true ∧ apiTokenIsValid config.cloudflareApiToken = true
  unconfigured : config.cloudflareConfigured = false →
    config.cloudflareZoneName = [] ∧ config.cloudflareZoneId = [] ∧ config.cloudflareApiToken = []
  monitor : monitorValuesAreValid config.ntpPeerPollIntervalSeconds config.ntpPeerResponseTimeoutMs = true
  peers : ∀ index, Peer.WellFormed (config.ntpPeers index)

theorem peer_wellFormed {server : Bytes} (valid : deviceConfigNtpPeerServerIsValid server = true) :
    Peer.WellFormed ⟨true, lowercase server⟩ where
  enabled _ := ⟨by rw [serverIsValid_lowercase, valid], lowercase_lowercase server⟩
  disabled off := by cases off

theorem noPeer_wellFormed : Peer.WellFormed ⟨false, []⟩ where
  enabled on := by cases on
  disabled _ := rfl

theorem loadedHead_wellFormed {generation : UInt32} {hostname : Bytes} (counted : generation ≠ 0)
    (valid : deviceConfigHostnameIsValid hostname = true) :
    Config.WellFormed (loadedHead generation hostname) where
  schema := rfl
  generation := counted
  hostname := by rw [loadedHead, hostnameIsValid_lowercase, valid]
  hostname_lower := lowercase_lowercase hostname
  configured on := by cases on
  unconfigured _ := ⟨rfl, rfl, rfl⟩
  monitor := rfl
  peers _ := noPeer_wellFormed

theorem makeDefaultConfig_eq {defaultHostname : Bytes}
    (valid : deviceConfigHostnameIsValid defaultHostname = true) :
    makeDefaultConfig defaultHostname = loadedHead 1 defaultHostname := by
  simp only [makeDefaultConfig, loadedHead, formatted_eq (hostname_fits valid)]

theorem loadCloudflare_wellFormed (entries : ConfigEntries) {config : StoredConfig}
    (wellFormed : Config.WellFormed config) : Config.WellFormed (loadCloudflare entries config) := by
  unfold loadCloudflare
  split
  next zoneName zoneId token _ _ _ =>
    split
    next valid =>
      have zoneFits := zone_fits valid.1
      rw [formatted_eq (by simpa using zoneFits), formatted_eq (zoneId_fits valid.2.1),
        formatted_eq (token_fits valid.2.2)]
      exact { wellFormed with
        configured := fun _ => ⟨by rw [zoneIsValid_lowercase, valid.1], lowercase_lowercase zoneName,
          valid.2⟩
        unconfigured := nofun }
    · exact wellFormed
  · exact wellFormed

theorem loadPeer_wellFormed (entries : ConfigEntries) (index : Fin appNtpPeerMaxCount) :
    Peer.WellFormed (loadPeer entries index) := by
  unfold loadPeer
  split
  · split
    next valid => exact peer_wellFormed valid
    · exact noPeer_wellFormed
  · exact noPeer_wellFormed

theorem valueInRange_valid (read : Except EspErr UInt32) {least greatest present : UInt32}
    (initial : UInt32) (inside : least ≤ present ∧ present ≤ greatest) :
    least ≤ valueInRange read least greatest initial present ∧
      valueInRange read least greatest initial present ≤ greatest := by
  have clamped (value : UInt32) :
      least ≤ (if least ≤ value ∧ value ≤ greatest then value else present) ∧
        (if least ≤ value ∧ value ≤ greatest then value else present) ≤ greatest := by
    by_cases valid : least ≤ value ∧ value ≤ greatest
    · simpa only [if_pos valid] using valid
    · simpa only [if_neg valid] using inside
  cases read with
  | ok value => exact clamped value
  | error err => exact clamped initial

theorem monitorValuesAreValid_iff {poll timeout : UInt32} :
    monitorValuesAreValid poll timeout = true ↔
      (appNtpPeerPollMinSeconds ≤ poll ∧ poll ≤ appNtpPeerPollMaxSeconds) ∧
        appNtpPeerTimeoutMinMs ≤ timeout ∧ timeout ≤ appNtpPeerTimeoutMaxMs := by
  simp [monitorValuesAreValid, and_assoc]

theorem loadPeerMonitor_wellFormed (entries : ConfigEntries) {config : StoredConfig}
    (wellFormed : Config.WellFormed config) :
    Config.WellFormed (loadPeerMonitor entries config) := by
  obtain ⟨poll, timeout⟩ := monitorValuesAreValid_iff.mp wellFormed.monitor
  exact { wellFormed with
    monitor := monitorValuesAreValid_iff.mpr
      ⟨valueInRange_valid _ _ poll, valueInRange_valid _ _ timeout⟩
    peers := loadPeer_wellFormed entries }

theorem migrated_loaded {nvs : NvsAnswers} {config loaded : StoredConfig} {writes : List ConfigWrite}
    (result : migrated nvs config = (.loaded loaded, writes)) :
    loaded = config ∧ (persistConfig nvs config).err = .ok ∧
      writes = configWrites config (persistConfig nvs config).keys := by
  obtain ⟨outcome, rfl⟩ := Prod.mk.inj result
  split at outcome
  next stored => exact ⟨(Loaded.loaded.inj outcome).symm, stored, rfl⟩
  · cases outcome

theorem loadConfig_loaded {nvs : NvsAnswers} {stored : Option ConfigEntries} {config : StoredConfig}
    {writes : List ConfigWrite} (result : loadConfig nvs stored = (.loaded config, writes)) :
    Config.WellFormed config ∧ (writes = [] ∨ (persistConfig nvs config).err = .ok ∧
      writes = configWrites config (persistConfig nvs config).keys) := by
  have migration {config' : StoredConfig} (wellFormed : Config.WellFormed config')
      (result : migrated nvs config' = (.loaded config, writes)) :
      Config.WellFormed config ∧ (writes = [] ∨ (persistConfig nvs config).err = .ok ∧
        writes = configWrites config (persistConfig nvs config).keys) := by
    obtain ⟨rfl, written⟩ := migrated_loaded result
    exact ⟨wellFormed, .inr written⟩
  cases stored with
  | none => cases result
  | some entries =>
      simp only [loadConfig] at result
      split at result
      · split at result
        · split at result
          next valid => exact migration (loadedHead_wellFormed (by decide) valid) result
          · cases result
        · cases result
      · cases result
      · split at result
        · cases result
        split at result
        · split at result
          · cases result
          next usable =>
            obtain ⟨counted, valid⟩ := not_or.mp usable
            have head := loadedHead_wellFormed counted (not_not.mp valid)
            have withCloudflare := loadCloudflare_wellFormed entries head
            split at result
            · exact migration head result
            split at result
            · exact migration withCloudflare result
            · cases result
              exact ⟨loadPeerMonitor_wellFormed entries withCloudflare, .inl rfl⟩
        · cases result

def configKeys : List ConfigKey := headKeys ++ (cloudflareKeys ++ (monitorKeys ++ (peerKeys ++ [])))

theorem mem_configKeys (key : ConfigKey) : key ∈ configKeys := by
  cases key with
  | peer index => simp [configKeys, peerKeys]
  | _ => decide

structure Covers (attempts : Attempts) (keys : List ConfigKey) : Prop where
  part : attempts.keys.Sublist keys
  complete : attempts.err = .ok → attempts.keys = keys

theorem attempt_covers (result : ConfigKey → EspErr) (keys : List ConfigKey) :
    Covers (attempt result keys) keys := by
  induction keys with
  | nil => exact ⟨.slnil, fun _ => rfl⟩
  | cons key rest ih =>
      unfold attempt
      split
      · exact ⟨ih.part.cons_cons key, fun done => congrArg (key :: ·) (ih.complete done)⟩
      next failed => exact ⟨(List.nil_sublist rest).cons_cons key, fun done => absurd done failed⟩

theorem attemptAll_covers (result : ConfigKey → EspErr) (keys : List ConfigKey) :
    Covers (attemptAll result keys) keys := ⟨List.Sublist.refl keys, fun _ => rfl⟩

theorem andThen_covers {first second : Attempts} {keys later : List ConfigKey}
    (before : Covers first keys) (after : Covers second later) :
    Covers (first.andThen second) (keys ++ later) := by
  unfold Attempts.andThen
  split
  next done =>
    rw [before.complete done]
    exact ⟨after.part.append_left keys, fun done => congrArg (keys ++ ·) (after.complete done)⟩
  next failed =>
    exact ⟨before.part.trans (List.sublist_append_left keys later), fun done => absurd done failed⟩

theorem persistConfig_covers (nvs : NvsAnswers) (config : StoredConfig) :
    Covers (persistConfig nvs config) configKeys := by
  unfold persistConfig
  split
  next refused => exact ⟨List.nil_sublist _, fun done => absurd done refused⟩
  · apply andThen_covers (attempt_covers _ headKeys)
    refine andThen_covers ?_ (andThen_covers (attempt_covers _ monitorKeys)
      (andThen_covers (attempt_covers _ peerKeys) ⟨.slnil, fun _ => rfl⟩))
    split
    · exact attempt_covers _ cloudflareKeys
    · exact attemptAll_covers _ cloudflareKeys

theorem attempt_works {result : ConfigKey → EspErr} (works : ∀ key, result key = .ok)
    (keys : List ConfigKey) : attempt result keys = ⟨.ok, keys⟩ := by
  induction keys with
  | nil => rfl
  | cons key rest ih => rw [attempt, if_pos (works key), ih]

theorem persistConfig_works {written : ConfigKey → EspErr} (works : ∀ key, written key = .ok)
    (committed : EspErr) (config : StoredConfig) :
    persistConfig ⟨.ok, written, committed⟩ config = ⟨committed, configKeys⟩ := by
  have results (key : ConfigKey) :
      NvsAnswers.result ⟨.ok, written, committed⟩ config key = .ok := by simp [NvsAnswers.result, works]
  have attempts := attempt_works results
  have all (keys : List ConfigKey) :
      attemptAll (NvsAnswers.result ⟨.ok, written, committed⟩ config) keys = ⟨.ok, keys⟩ := by
    rw [attemptAll, attempts]
  rw [persistConfig, if_neg (not_not.mpr rfl)]
  simp only [attempts, all, ite_self, Attempts.andThen, if_true]
  rfl

theorem persistConfig_working (config : StoredConfig) :
    persistConfig .working config = ⟨.ok, configKeys⟩ := persistConfig_works (fun _ => rfl) .ok config

theorem configWrites_all (config : StoredConfig) (entries : ConfigEntries) :
    applyAll (configWrites config configKeys) entries = configEntry config :=
  applyAll_putEntry_all (configEntry config) mem_configKeys entries

/-! ## Loading entries of well-formed configurations -/

def entriesFrom (source : ConfigKey → StoredConfig) : ConfigEntries :=
  fun key => configEntry (source key) key

def assemble (source : ConfigKey → StoredConfig) : StoredConfig :=
  let configured := (source .cfZoneName).cloudflareConfigured && (source .cfZoneId).cloudflareConfigured &&
    (source .cfApiToken).cloudflareConfigured
  { schemaVersion := (source .schema).schemaVersion
    generation := (source .generation).generation
    hostname := (source .hostname).hostname
    cloudflareConfigured := configured
    cloudflareZoneName := if configured then (source .cfZoneName).cloudflareZoneName else []
    cloudflareZoneId := if configured then (source .cfZoneId).cloudflareZoneId else []
    cloudflareApiToken := if configured then (source .cfApiToken).cloudflareApiToken else []
    ntpPeerMonitorEnabled := (source .peerEnabled).ntpPeerMonitorEnabled
    ntpPeerPollIntervalSeconds := (source .peerPoll).ntpPeerPollIntervalSeconds
    ntpPeerResponseTimeoutMs := (source .peerTimeout).ntpPeerResponseTimeoutMs
    ntpPeers := fun index => (source (.peer index)).ntpPeers index }

theorem assemble_const {config : StoredConfig} (wellFormed : Config.WellFormed config) :
    assemble (fun _ => config) = config := by
  obtain ⟨_, _, _, configured, zoneName, zoneId, token⟩ := config
  cases configured with
  | true => rfl
  | false =>
      have empty : zoneName = [] ∧ zoneId = [] ∧ token = [] := wellFormed.unconfigured rfl
      obtain ⟨rfl, rfl, rfl⟩ := empty
      rfl

section
variable {source : ConfigKey → StoredConfig} (wellFormed : ∀ key, Config.WellFormed (source key))
include wellFormed

theorem read_hostname : nvsGetStr (entriesFrom source) .hostname
    (appDeviceHostnameMaxLength + 1) = .ok (source .hostname).hostname :=
  if_pos (hostname_fits (wellFormed .hostname).hostname)

theorem loadPeer_source (index : Fin appNtpPeerMaxCount) :
    loadPeer (entriesFrom source) index =
      (source (.peer index)).ntpPeers index := by
  have peer := (wellFormed (.peer index)).peers index
  cases present : (source (.peer index)).ntpPeers index with
  | mk enabled server =>
      rw [present] at peer
      cases enabled with
      | true =>
          obtain ⟨valid, lower⟩ := peer.enabled rfl
          obtain ⟨nonempty, fits⟩ := server_fits valid
          simp [loadPeer, nvsGetStr, entriesFrom, configEntry, present, nonempty, fits, valid, lower]
      | false =>
          obtain rfl : server = [] := peer.disabled rfl
          simp [loadPeer, nvsGetStr, entriesFrom, configEntry, present]

theorem read_zoneName : nvsGetStr (entriesFrom source) .cfZoneName
    (appCloudflareZoneNameMaxLength + 1) =
      if (source .cfZoneName).cloudflareConfigured then .ok (source .cfZoneName).cloudflareZoneName
      else .error .notFound := by
  cases configured : (source .cfZoneName).cloudflareConfigured with
  | false => simp [nvsGetStr, entriesFrom, configEntry, configured]
  | true =>
      have fits := zone_fits ((wellFormed .cfZoneName).configured configured).1
      simp [nvsGetStr, entriesFrom, configEntry, configured, fits]

theorem read_zoneId : nvsGetStr (entriesFrom source) .cfZoneId
    (appCloudflareZoneIdLength + 1) =
      if (source .cfZoneId).cloudflareConfigured then .ok (source .cfZoneId).cloudflareZoneId
      else .error .notFound := by
  cases configured : (source .cfZoneId).cloudflareConfigured with
  | false => simp [nvsGetStr, entriesFrom, configEntry, configured]
  | true =>
      have fits := zoneId_fits ((wellFormed .cfZoneId).configured configured).2.2.1
      simp [nvsGetStr, entriesFrom, configEntry, configured, fits]

theorem read_token : nvsGetStr (entriesFrom source) .cfApiToken
    (appCloudflareApiTokenMaxLength + 1) =
      if (source .cfApiToken).cloudflareConfigured then .ok (source .cfApiToken).cloudflareApiToken
      else .error .notFound := by
  cases configured : (source .cfApiToken).cloudflareConfigured with
  | false => simp [nvsGetStr, entriesFrom, configEntry, configured]
  | true =>
      have fits := token_fits ((wellFormed .cfApiToken).configured configured).2.2.2
      simp [nvsGetStr, entriesFrom, configEntry, configured, fits]

theorem loadCloudflare_source (config : StoredConfig) :
    loadCloudflare (entriesFrom source) config =
      if (source .cfZoneName).cloudflareConfigured && (source .cfZoneId).cloudflareConfigured &&
          (source .cfApiToken).cloudflareConfigured then
        { config with
          cloudflareConfigured := true
          cloudflareZoneName := (source .cfZoneName).cloudflareZoneName
          cloudflareZoneId := (source .cfZoneId).cloudflareZoneId
          cloudflareApiToken := (source .cfApiToken).cloudflareApiToken }
      else config := by
  rw [loadCloudflare, read_zoneName wellFormed, read_zoneId wellFormed, read_token wellFormed]
  cases zoneName : (source .cfZoneName).cloudflareConfigured with
  | false => rfl
  | true =>
      cases zoneId : (source .cfZoneId).cloudflareConfigured with
      | false => rfl
      | true =>
          cases token : (source .cfApiToken).cloudflareConfigured with
          | false => rfl
          | true =>
              obtain ⟨zoneValid, zoneLower, -, -⟩ := (wellFormed .cfZoneName).configured zoneName
              obtain ⟨-, -, idValid, -⟩ := (wellFormed .cfZoneId).configured zoneId
              obtain ⟨-, -, -, tokenValid⟩ := (wellFormed .cfApiToken).configured token
              simp [zoneValid, idValid, tokenValid, zoneLower, formatted_eq, zone_fits zoneValid,
                zoneId_fits idValid, token_fits tokenValid]

theorem loadPeerMonitor_source (config : StoredConfig) :
    loadPeerMonitor (entriesFrom source) config =
      { config with
        ntpPeers := fun index => (source (.peer index)).ntpPeers index
        ntpPeerMonitorEnabled := (source .peerEnabled).ntpPeerMonitorEnabled
        ntpPeerPollIntervalSeconds := (source .peerPoll).ntpPeerPollIntervalSeconds
        ntpPeerResponseTimeoutMs := (source .peerTimeout).ntpPeerResponseTimeoutMs } := by
  obtain ⟨poll, -⟩ := monitorValuesAreValid_iff.mp (wellFormed .peerPoll).monitor
  obtain ⟨-, timeout⟩ := monitorValuesAreValid_iff.mp (wellFormed .peerTimeout).monitor
  have peers : loadPeer (entriesFrom source) =
      fun index => (source (.peer index)).ntpPeers index := funext (loadPeer_source wellFormed)
  rw [loadPeerMonitor, peers]
  cases enabled : (source .peerEnabled).ntpPeerMonitorEnabled <;>
    simp [nvsGetU8, nvsGetU32, valueInRange, entriesFrom, configEntry, enabled, poll, timeout]

theorem loadConfig_source (nvs : NvsAnswers) :
    loadConfig nvs (some (entriesFrom source)) = (.loaded (assemble source), []) := by
  have schema : nvsGetU32 (entriesFrom source) .schema =
      .ok appDeviceConfigSchemaVersion := congrArg Except.ok (wellFormed .schema).schema
  have generation : nvsGetU32 (entriesFrom source) .generation =
      .ok (source .generation).generation := rfl
  have usable : ¬((source .generation).generation = 0 ∨
      ¬deviceConfigHostnameIsValid (source .hostname).hostname = true) := by
    rw [not_or, not_not]
    exact ⟨(wellFormed .generation).generation, (wellFormed .hostname).hostname⟩
  simp only [loadConfig, schema, generation, read_hostname wellFormed, if_neg usable,
    loadCloudflare_source wellFormed, loadPeerMonitor_source wellFormed]
  rw [if_neg (by decide), if_neg (by decide), if_neg (by decide)]
  simp only [assemble, loadedHead, (wellFormed .schema).schema, (wellFormed .hostname).hostname_lower]
  generalize ((source .cfZoneName).cloudflareConfigured && (source .cfZoneId).cloudflareConfigured &&
    (source .cfApiToken).cloudflareConfigured) = configured
  cases configured <;> rfl

end

theorem loadConfig_entry (nvs : NvsAnswers) {config : StoredConfig} (wellFormed : Config.WellFormed config) :
    loadConfig nvs (some (configEntry config)) = (.loaded config, []) := by
  have loads := loadConfig_source (fun _ => wellFormed) nvs
  rwa [assemble_const wellFormed] at loads

end NtsTimeServer.Proof
