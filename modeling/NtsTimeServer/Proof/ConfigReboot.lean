import NtsTimeServer.Proof.DeviceConfig

/-!
# The configuration after a reboot

Every setter keeps the configuration well formed, and what it installs is stored whole. So the
configuration in memory is what is loaded, after the initialisation and after every setter call.
-/

namespace NtsTimeServer.Proof
open Model Lib

def SetterCall.WritesNothing (config : StoredConfig) : SetterCall → Prop
  | .setHostname none => True
  | .setHostname (some hostname) =>
      deviceConfigHostnameIsValid hostname → lowercase hostname = config.hostname
  | .setCloudflare (some apiToken) (some zoneName) (some zoneId) =>
      ¬(apiTokenIsValid apiToken ∧ deviceConfigCloudflareZoneIsValid zoneName ∧ zoneIdIsValid zoneId)
  | .setCloudflare _ _ _ => True
  | .clearCloudflare => config.cloudflareConfigured = false
  | .setNtpPeerMonitor _ _ _ none => True
  | .setNtpPeerMonitor _ pollIntervalSeconds responseTimeoutMs (some peers) =>
      ¬(monitorValuesAreValid pollIntervalSeconds responseTimeoutMs ∧ peersAreValid peers)

theorem nextGeneration_ne_zero (generation : UInt32) : nextGeneration generation ≠ 0 := by
  unfold nextGeneration
  split
  · decide
  next counted => exact counted

theorem nextGeneration_ne (generation : UInt32) : nextGeneration generation ≠ generation := by
  unfold nextGeneration
  split
  next wraps =>
    rintro rfl
    exact absurd wraps (by decide)
  · intro same
    rw [← UInt32.toNat_inj, UInt32.toNat_add] at same
    have small := generation.toNat_lt
    simp only [UInt32.toNat_one] at same
    omega

theorem candidatePeer_wellFormed {peers : Fin appNtpPeerMaxCount → DeviceConfigNtpPeer}
    (valid : peersAreValid peers = true) (index : Fin appNtpPeerMaxCount) :
    Peer.WellFormed (candidatePeer (peers index)) := by
  unfold candidatePeer
  split
  next enabled =>
    have checked := List.all_eq_true.mp valid index (List.mem_finRange index)
    have server : deviceConfigNtpPeerServerIsValid (peers index).server = true := by
      simpa [enabled] using checked
    rw [formatted_eq (server_fits server).2]
    exact peer_wellFormed server
  · exact noPeer_wellFormed

inductive SetterStep (config : StoredConfig) (call : SetterCall) : Prop
  | unchanged (err : EspErr) : SetterCall.WritesNothing config call →
      (∀ nvs, call.run nvs config = setterReturns config err) → SetterStep config call
  | commits (candidate : StoredConfig) : ¬SetterCall.WritesNothing config call →
      Config.WellFormed candidate → candidate.generation = nextGeneration config.generation →
      (∀ nvs, call.run nvs config = commitCandidate nvs config candidate) → SetterStep config call

section
variable {config : StoredConfig} (wellFormed : Config.WellFormed config)
include wellFormed

theorem setHostname_step (hostname : Option Bytes) : SetterStep config (.setHostname hostname) := by
  cases hostname with
  | none => exact .unchanged .invalidArg trivial fun _ => rfl
  | some hostname =>
      by_cases valid : deviceConfigHostnameIsValid hostname = true
      · have fits := hostname_fits valid
        have text : formatted (appDeviceHostnameMaxLength + 1) hostname = hostname := formatted_eq fits
        by_cases same : lowercase hostname = config.hostname
        · exact .unchanged .ok (fun _ => same) fun nvs => by
            simp [SetterCall.run, deviceConfigSetHostname, valid, text, same]
        · refine .commits { config with
            hostname := lowercase hostname, generation := nextGeneration config.generation }
            (fun nothing => same (nothing valid)) ?_ rfl fun nvs => ?_
          · exact { wellFormed with
              generation := nextGeneration_ne_zero config.generation
              hostname := by rw [hostnameIsValid_lowercase, valid]
              hostname_lower := lowercase_lowercase hostname }
          · have lower : formatted (appDeviceHostnameMaxLength + 1) (lowercase hostname) =
                lowercase hostname := formatted_eq (by simpa using fits)
            simp [SetterCall.run, deviceConfigSetHostname, valid, text, same, lower]
      · exact .unchanged .invalidArg (fun accepted => absurd accepted valid) fun nvs => by
          simp [SetterCall.run, deviceConfigSetHostname, valid]

theorem setCloudflare_step (apiToken zoneName zoneId : Option Bytes) :
    SetterStep config (.setCloudflare apiToken zoneName zoneId) := by
  match apiToken, zoneName, zoneId with
  | none, _, _ => exact .unchanged .invalidArg trivial fun _ => rfl
  | some _, none, _ => exact .unchanged .invalidArg trivial fun _ => rfl
  | some _, some _, none => exact .unchanged .invalidArg trivial fun _ => rfl
  | some apiToken, some zoneName, some zoneId =>
      by_cases valid : apiTokenIsValid apiToken = true ∧
          deviceConfigCloudflareZoneIsValid zoneName = true ∧ zoneIdIsValid zoneId = true
      · obtain ⟨tokenValid, zoneValid, idValid⟩ := valid
        refine .commits { config with
          cloudflareConfigured := true
          cloudflareZoneName := lowercase zoneName
          cloudflareZoneId := zoneId
          cloudflareApiToken := apiToken
          generation := nextGeneration config.generation }
          (fun refused => refused ⟨tokenValid, zoneValid, idValid⟩) ?_ rfl fun nvs => ?_
        · exact { wellFormed with
            generation := nextGeneration_ne_zero config.generation
            configured := fun _ => ⟨by rw [zoneIsValid_lowercase, zoneValid],
              lowercase_lowercase zoneName, idValid, tokenValid⟩
            unconfigured := nofun }
        · simp [SetterCall.run, deviceConfigSetCloudflare, tokenValid, zoneValid, idValid, formatted_eq,
            zone_fits zoneValid, zoneId_fits idValid, token_fits tokenValid]
      · refine .unchanged .invalidArg valid fun nvs => if_pos ?_
        rwa [not_and_or, not_and_or] at valid

theorem clearCloudflare_step : SetterStep config .clearCloudflare := by
  cases configured : config.cloudflareConfigured with
  | false =>
      refine .unchanged .ok configured fun nvs => ?_
      simp [SetterCall.run, deviceConfigClearCloudflare, configured]
  | true =>
      refine .commits { config with
        cloudflareConfigured := false
        cloudflareZoneName := []
        cloudflareZoneId := []
        cloudflareApiToken := []
        generation := nextGeneration config.generation }
        (fun unset => by cases configured.symm.trans unset) ?_ rfl fun nvs => ?_
      · exact { wellFormed with
          generation := nextGeneration_ne_zero config.generation
          configured := nofun
          unconfigured := fun _ => ⟨rfl, rfl, rfl⟩ }
      · simp [SetterCall.run, deviceConfigClearCloudflare, configured]

theorem setNtpPeerMonitor_step (enabled : Bool) (pollIntervalSeconds responseTimeoutMs : UInt32)
    (peers : Option (Fin appNtpPeerMaxCount → DeviceConfigNtpPeer)) :
    SetterStep config (.setNtpPeerMonitor enabled pollIntervalSeconds responseTimeoutMs peers) := by
  cases peers with
  | none => exact .unchanged .invalidArg trivial fun _ => rfl
  | some peers =>
      by_cases valid : monitorValuesAreValid pollIntervalSeconds responseTimeoutMs = true ∧
          peersAreValid peers = true
      · refine .commits { config with
          ntpPeerMonitorEnabled := enabled
          ntpPeerPollIntervalSeconds := pollIntervalSeconds
          ntpPeerResponseTimeoutMs := responseTimeoutMs
          ntpPeers := fun index => candidatePeer (peers index)
          generation := nextGeneration config.generation }
          (fun refused => refused valid) ?_ rfl fun nvs => ?_
        · exact { wellFormed with
            generation := nextGeneration_ne_zero config.generation
            monitor := valid.1
            peers := candidatePeer_wellFormed valid.2 }
        · simp [SetterCall.run, deviceConfigSetNtpPeerMonitor, valid]
      · refine .unchanged .invalidArg valid fun nvs => if_pos ?_
        rwa [not_and_or] at valid

theorem setter_step (call : SetterCall) : SetterStep config call := by
  cases call with
  | setHostname hostname => exact setHostname_step wellFormed hostname
  | setCloudflare apiToken zoneName zoneId => exact setCloudflare_step wellFormed apiToken zoneName zoneId
  | clearCloudflare => exact clearCloudflare_step wellFormed
  | setNtpPeerMonitor enabled pollIntervalSeconds responseTimeoutMs peers =>
      exact setNtpPeerMonitor_step wellFormed enabled pollIntervalSeconds responseTimeoutMs peers

end

/-! ## Reboots -/

/-- `load_config` returns `ESP_OK`, asks for no defaults and yields the configuration. -/
def Restores (entries : ConfigEntries) (config : StoredConfig) : Prop :=
  (loadConfig .working (some entries)).1 = .loaded config

structure ConfigKept (device : ConfiguredDevice) : Prop where
  wellFormed : Config.WellFormed device.config
  restores : Restores device.entries device.config

theorem stored_kept {config : StoredConfig} (wellFormed : Config.WellFormed config) :
    ConfigKept ⟨config, configEntry config⟩ := ⟨wellFormed, by rw [Restores, loadConfig_entry _ wellFormed]⟩

theorem entriesAfter_all (stored : Option ConfigEntries) (config : StoredConfig) :
    entriesAfter stored (configWrites config configKeys) = configEntry config := configWrites_all config _

theorem deviceConfigInit_kept {defaultHostname : Bytes} {stored : Option ConfigEntries}
    {device : ConfiguredDevice} (started : deviceConfigInit .working defaultHostname stored = .ok device) :
    ConfigKept device := by
  unfold deviceConfigInit at started
  split at started
  · cases started
  next named =>
    split at started
    · cases started
    next config writes load =>
      cases started
      obtain ⟨wellFormed, unwritten | ⟨-, written⟩⟩ := loadConfig_loaded load
      · cases stored with
        | none => cases load
        | some entries =>
            subst unwritten
            exact ⟨wellFormed, congrArg Prod.fst load⟩
      · rw [persistConfig_working] at written
        rw [written, entriesAfter_all]
        exact stored_kept wellFormed
    next writes load =>
      simp only [persistConfig_working, makeDefaultConfig_eq (not_not.mp named), ne_eq, not_true_eq_false,
        if_false, Except.ok.injEq] at started
      subst started
      have stores : entriesAfter stored (writes ++ configWrites (loadedHead 1 defaultHostname) configKeys) =
          configEntry (loadedHead 1 defaultHostname) := by
        rw [entriesAfter, applyAll_append, configWrites_all]
      rw [stores]
      exact stored_kept (loadedHead_wellFormed (by decide) (not_not.mp named))

theorem call_kept {device : ConfiguredDevice} (kept : ConfigKept device) (call : SetterCall) :
    ConfigKept (device.call .working call) := by
  cases setter_step kept.wellFormed call with
  | unchanged err nothing result =>
      simp only [ConfiguredDevice.call, result]
      exact kept
  | commits candidate changes wellFormed generation result =>
      simp only [ConfiguredDevice.call, result, commitCandidate, persistConfig_working, configWrites_all]
      exact stored_kept wellFormed

theorem calls_kept {device : ConfiguredDevice} (kept : ConfigKept device) (calls : List SetterCall) :
    ConfigKept (device.calls .working calls) := by
  induction calls generalizing device with
  | nil => exact kept
  | cons call calls ih => exact ih (call_kept kept call)

theorem configuration_survives_reboot {defaultHostname : Bytes} {stored : Option ConfigEntries}
    {device : ConfiguredDevice} (started : deviceConfigInit .working defaultHostname stored = .ok device)
    (calls : List SetterCall) :
    Restores (device.calls .working calls).entries (device.calls .working calls).config :=
  (calls_kept (deviceConfigInit_kept started) calls).restores

def sampleHostname : Bytes := [0x65, 0x73, 0x70, 0x33, 0x32, 0x70, 0x34, 0x2D, 0x6E, 0x74, 0x70]

def samplePeers : Fin appNtpPeerMaxCount → DeviceConfigNtpPeer :=
  fun index => ⟨index.val == 1, [0x41, 0x2E, 0x62]⟩

theorem sample_survives_reboot :
    ∃ device, deviceConfigInit .working sampleHostname none = .ok device ∧
      Restores (device.calls .working [.setHostname (some [0x4E, 0x31]),
        .setNtpPeerMonitor true 64 500 (some samplePeers), .setHostname none]).entries
        (device.calls .working [.setHostname (some [0x4E, 0x31]),
          .setNtpPeerMonitor true 64 500 (some samplePeers), .setHostname none]).config := by
  obtain ⟨device, started⟩ : ∃ device, deviceConfigInit .working sampleHostname none = .ok device :=
    ⟨_, rfl⟩
  exact ⟨device, started, configuration_survives_reboot started _⟩

end NtsTimeServer.Proof
