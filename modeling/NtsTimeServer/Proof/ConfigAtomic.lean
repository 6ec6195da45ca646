import NtsTimeServer.Proof.ConfigReboot

/-!
# Configuration writes that are cut short

The record is spread over its keys, and any of the writes of a call may be durable when the call ends
early.
-/

namespace NtsTimeServer.Proof
open Model Lib

inductive CallEnd
  | succeeded | failed | powerLost
  deriving DecidableEq

inductive DurableKeys (result : SetterResult) : CallEnd → List ConfigKey → Prop
  | succeeded : result.err = .ok → DurableKeys result .succeeded result.keys
  | failed {keys : List ConfigKey} : result.err ≠ .ok → keys.Sublist result.keys →
      DurableKeys result .failed keys
  | powerLost {keys : List ConfigKey} : keys.Sublist result.keys → DurableKeys result .powerLost keys

structure Committed (device : ConfiguredDevice) : Prop where
  wellFormed : Config.WellFormed device.config
  stored : device.entries = configEntry device.config

theorem call_committed {device : ConfiguredDevice} (wellFormed : Config.WellFormed device.config)
    {call : SetterCall} (changes : ¬SetterCall.WritesNothing device.config call) {nvs : NvsAnswers}
    (done : (call.run nvs device.config).err = .ok) : Committed (device.call nvs call) := by
  cases setter_step wellFormed call with
  | unchanged err nothing => exact absurd nothing changes
  | commits candidate _ candidate_wellFormed _ result =>
      rw [result, commitCandidate] at done
      have keys := (persistConfig_covers nvs candidate).complete done
      simp only [ConfiguredDevice.call, result, commitCandidate, if_pos done, keys, configWrites_all]
      exact ⟨candidate_wellFormed, rfl⟩

def entriesAt (entries : ConfigEntries) (result : SetterResult) (keys : List ConfigKey) : ConfigEntries :=
  applyAll (configWrites result.installing keys) entries

/-- At every point, the next load yields the configuration before the call or the one that the call was
installing, and the former when the call returned an error. -/
def CallAtomic (device : ConfiguredDevice) (call : SetterCall) : Prop :=
  ∀ (nvs : NvsAnswers) (finish : CallEnd) (keys : List ConfigKey),
    DurableKeys (call.run nvs device.config) finish keys →
    (Restores (entriesAt device.entries (call.run nvs device.config) keys) device.config ∨
      Restores (entriesAt device.entries (call.run nvs device.config) keys)
        (call.run nvs device.config).installing) ∧
    (finish = .failed →
      Restores (entriesAt device.entries (call.run nvs device.config) keys) device.config)

theorem restores_unique {entries : ConfigEntries} {config other : StoredConfig}
    (restores : Restores entries config) (also : Restores entries other) : config = other :=
  Loaded.loaded.inj (restores.symm.trans also)

theorem entry_restores {config : StoredConfig} (wellFormed : Config.WellFormed config) :
    Restores (configEntry config) config := (stored_kept wellFormed).restores

/-! ## What is loaded at a point -/

/-- The durable writes for `installing` change nothing that is loaded: they write what is stored, or
they leave a credential incomplete where there was none. -/
structure KeepsLoaded (config installing : StoredConfig) (durable : ConfigKey → Prop) : Prop where
  plain : ∀ key, key ∉ cloudflareKeys → durable key →
    configEntry installing key = configEntry config key
  configured : config.cloudflareConfigured = true → ∀ key ∈ cloudflareKeys, durable key →
    configEntry installing key = configEntry config key
  unconfigured : config.cloudflareConfigured = false → installing.cloudflareConfigured = true →
    ∃ key ∈ cloudflareKeys, ¬durable key

section
variable {config installing : StoredConfig} {durable : ConfigKey → Prop} [DecidablePred durable]

def durableSource (config installing : StoredConfig) (durable : ConfigKey → Prop)
    [DecidablePred durable] (key : ConfigKey) : StoredConfig :=
  if durable key then installing else config

theorem durableSource_wellFormed (before : Config.WellFormed config)
    (after : Config.WellFormed installing) (durable : ConfigKey → Prop) [DecidablePred durable]
    (key : ConfigKey) :
    Config.WellFormed (durableSource config installing durable key) := by
  unfold durableSource
  split
  · exact after
  · exact before

theorem durableSource_entry {key : ConfigKey}
    (same : durable key → configEntry installing key = configEntry config key) :
    configEntry (durableSource config installing durable key) key = configEntry config key := by
  unfold durableSource
  split
  next written => exact same written
  · rfl

theorem assemble_wellFormed {source : ConfigKey → StoredConfig}
    (wellFormed : ∀ key, Config.WellFormed (source key)) : Config.WellFormed (assemble source) :=
  (loadConfig_loaded (loadConfig_source wellFormed .working)).1

theorem configEntry_injective (first : Config.WellFormed config) (second : Config.WellFormed installing)
    (same : configEntry config = configEntry installing) : config = installing := by
  have loads := loadConfig_entry .working first
  rw [same, loadConfig_entry .working second] at loads
  exact (Loaded.loaded.inj (congrArg Prod.fst loads)).symm

theorem assemble_entry {source : ConfigKey → StoredConfig} {key : ConfigKey}
    (read : key ∉ cloudflareKeys ∨ (assemble source).cloudflareConfigured = true) :
    configEntry (assemble source) key = configEntry (source key) key := by
  by_cases member : key ∈ cloudflareKeys
  · have configured := read.resolve_left (not_not.mpr member)
    have all : ((source .cfZoneName).cloudflareConfigured && (source .cfZoneId).cloudflareConfigured &&
        (source .cfApiToken).cloudflareConfigured) = true := configured
    rw [Bool.and_eq_true, Bool.and_eq_true] at all
    simp only [cloudflareKeys, List.mem_cons, List.not_mem_nil, or_false] at member
    obtain rfl | rfl | rfl := member <;> simp [assemble, configEntry, all]
  · cases key with
    | cfZoneName | cfZoneId | cfApiToken => exact absurd (by decide) member
    | _ => rfl

theorem keeps_assemble (before : Config.WellFormed config) (after : Config.WellFormed installing)
    (keeps : KeepsLoaded config installing durable) :
    assemble (durableSource config installing durable) = config := by
  have sources := durableSource_wellFormed before after durable
  cases configured : config.cloudflareConfigured with
  | true =>
      have entries : entriesFrom (durableSource config installing durable) = configEntry config := by
        funext key
        by_cases member : key ∈ cloudflareKeys
        · exact durableSource_entry (keeps.configured configured key member)
        · exact durableSource_entry (keeps.plain key member)
      have loads := loadConfig_source sources .working
      rw [entries, loadConfig_entry _ before] at loads
      exact (Loaded.loaded.inj (congrArg Prod.fst loads)).symm
  | false =>
      have incomplete :
          (assemble (durableSource config installing durable)).cloudflareConfigured = false := by
        cases added : installing.cloudflareConfigured with
        | false => simp [assemble, durableSource, apply_ite, added, configured]
        | true =>
            obtain ⟨key, member, unwritten⟩ := keeps.unconfigured configured added
            have absent : (durableSource config installing durable key).cloudflareConfigured = false := by
              rw [durableSource, if_neg unwritten, configured]
            simp only [cloudflareKeys, List.mem_cons, List.not_mem_nil, or_false] at member
            obtain rfl | rfl | rfl := member <;> simp [assemble, absent]
      refine configEntry_injective (assemble_wellFormed sources) before (funext fun key => ?_)
      by_cases member : key ∈ cloudflareKeys
      · simp only [cloudflareKeys, List.mem_cons, List.not_mem_nil, or_false] at member
        obtain rfl | rfl | rfl := member <;> simp [configEntry, incomplete, configured]
      · rw [assemble_entry (.inl member)]
        exact durableSource_entry (keeps.plain key member)

theorem assemble_keeps (same : assemble (durableSource config installing durable) = config) :
    KeepsLoaded config installing durable := by
  have entry {key : ConfigKey} (read : key ∉ cloudflareKeys ∨ config.cloudflareConfigured = true)
      (written : durable key) : configEntry installing key = configEntry config key := by
    have read := assemble_entry (same.symm ▸ read)
    rwa [same, durableSource, if_pos written, eq_comm] at read
  refine ⟨fun key other => entry (.inl other), fun configured key _ => entry (.inr configured),
    fun unset added => ?_⟩
  by_contra complete
  have sources {key : ConfigKey} (member : key ∈ cloudflareKeys) :
      (durableSource config installing durable key).cloudflareConfigured = true := by
    have written : durable key := by
      by_contra unwritten
      exact complete ⟨key, member, unwritten⟩
    rw [durableSource, if_pos written, added]
  have configured : (assemble (durableSource config installing durable)).cloudflareConfigured = true := by
    simp only [assemble, Bool.and_eq_true]
    exact ⟨⟨sources (by decide), sources (by decide)⟩, sources (by decide)⟩
  rw [same, unset] at configured
  cases configured

theorem durableSource_back : durableSource installing config (fun key => ¬durable key) =
    durableSource config installing durable := by
  funext key
  by_cases written : durable key <;> simp [durableSource, written]

end

/-- Exactly when a point of a call leaves a configuration whole: the durable writes change nothing that
is loaded, or the others would not. -/
theorem interrupted_iff {device : ConfiguredDevice} (committed : Committed device)
    {installing : StoredConfig} (after : Config.WellFormed installing) (keys : List ConfigKey) :
    Restores (applyAll (configWrites installing keys) device.entries) device.config ∨
        Restores (applyAll (configWrites installing keys) device.entries) installing ↔
      KeepsLoaded device.config installing (· ∈ keys) ∨ KeepsLoaded installing device.config (· ∉ keys) := by
  obtain ⟨before, stored⟩ := committed
  have source : applyAll (configWrites installing keys) device.entries =
      entriesFrom (durableSource device.config installing (· ∈ keys)) := by
    rw [configWrites, applyAll_putEntry, stored]
    funext key
    by_cases written : key ∈ keys <;> simp [entriesFrom, durableSource, written]
  have restores (config : StoredConfig) :
      Restores (entriesFrom (durableSource device.config installing (· ∈ keys))) config ↔
        assemble (durableSource device.config installing (· ∈ keys)) = config := by
    rw [Restores, loadConfig_source (durableSource_wellFormed before after _), Loaded.loaded.injEq]
  rw [source, restores, restores]
  refine or_congr ⟨assemble_keeps, keeps_assemble before after⟩ ?_
  rw [← durableSource_back]
  exact ⟨assemble_keeps, keeps_assemble after before⟩

/-! ## The setters -/

def commitFails : NvsAnswers := ⟨.ok, fun _ => .ok, .fail⟩

theorem setter_atomic_iff {device : ConfiguredDevice} (committed : Committed device) (call : SetterCall) :
    CallAtomic device call ↔ SetterCall.WritesNothing device.config call := by
  obtain ⟨wellFormed, stored⟩ := committed
  constructor
  · intro atomic
    by_contra changes
    cases setter_step wellFormed call with
    | unchanged err nothing => exact changes nothing
    | commits candidate _ candidate_wellFormed generation result =>
        -- every write is durable, and the commit fails
        have attempts : persistConfig commitFails candidate = ⟨.fail, configKeys⟩ :=
          persistConfig_works (fun _ => rfl) .fail candidate
        have durable : DurableKeys (call.run commitFails device.config) .failed configKeys := by
          rw [result, commitCandidate, attempts]
          apply DurableKeys.failed
          · intro done
            cases done
          · exact List.Sublist.refl configKeys
        have before := (atomic commitFails .failed configKeys durable).2 rfl
        rw [result, entriesAt, commitCandidate, configWrites_all] at before
        have same : device.config = candidate :=
          restores_unique before (entry_restores candidate_wellFormed)
        rw [← same] at generation
        exact nextGeneration_ne _ generation.symm
  · intro nothing nvs finish keys durable
    cases setter_step wellFormed call with
    | commits candidate changes => exact absurd nothing changes
    | unchanged err _ result =>
        rw [result] at durable ⊢
        have unwritten : keys = [] := by
          cases durable with
          | succeeded => rfl
          | failed _ part => exact List.sublist_nil.mp part
          | powerLost part => exact List.sublist_nil.mp part
        have restores : Restores (entriesAt device.entries (setterReturns device.config err) keys)
            device.config := by
          rw [unwritten, stored]
          exact entry_restores wellFormed
        exact ⟨.inl restores, fun _ => restores⟩

theorem defaultDevice_committed {defaultHostname : Bytes}
    (valid : deviceConfigHostnameIsValid defaultHostname = true) :
    Committed ⟨loadedHead 1 defaultHostname, configEntry (loadedHead 1 defaultHostname)⟩ :=
  ⟨loadedHead_wellFormed (by decide) valid, rfl⟩

theorem unconfigured_clear_atomic :
    CallAtomic ⟨loadedHead 1 sampleHostname, configEntry (loadedHead 1 sampleHostname)⟩ .clearCloudflare :=
  (setter_atomic_iff (defaultDevice_committed rfl) .clearCloudflare).mpr rfl

def zoneConfig (zoneName : Bytes) (digit : UInt8) (generation : UInt32) : StoredConfig :=
  { loadedHead generation sampleHostname with
    cloudflareConfigured := true
    cloudflareZoneName := zoneName
    cloudflareZoneId := List.replicate 32 digit
    cloudflareApiToken := List.replicate 20 digit }

def oldZone : Bytes := [0x61, 0x2E, 0x6F, 0x72, 0x67]

def newZone : Bytes := [0x62, 0x2E, 0x6F, 0x72, 0x67]

def zoneCall : SetterCall :=
  .setCloudflare (some (List.replicate 20 0x31)) (some newZone) (some (List.replicate 32 0x31))

def zoneWritten : List ConfigKey := [.schema, .generation, .hostname, .cfZoneName]

theorem zoneConfig_wellFormed {zoneName : Bytes} {digit : UInt8} {generation : UInt32}
    (zone : deviceConfigCloudflareZoneIsValid zoneName = true ∧ lowercase zoneName = zoneName)
    (id : zoneIdIsValid (List.replicate 32 digit) = true)
    (token : apiTokenIsValid (List.replicate 20 digit) = true) (counted : generation ≠ 0) :
    Config.WellFormed (zoneConfig zoneName digit generation) :=
  { loadedHead_wellFormed counted (show deviceConfigHostnameIsValid sampleHostname = true from rfl) with
    configured := fun _ => ⟨zone.1, zone.2, id, token⟩
    unconfigured := nofun }

theorem zoneDevice_committed :
    Committed ⟨zoneConfig oldZone 0x30 5, configEntry (zoneConfig oldZone 0x30 5)⟩ :=
  ⟨zoneConfig_wellFormed (by decide) (by decide) (by decide) (by decide), rfl⟩

theorem zone_durable :
    DurableKeys (zoneCall.run .working (zoneConfig oldZone 0x30 5)) .powerLost zoneWritten := by
  have written : zoneWritten.Sublist (zoneCall.run .working (zoneConfig oldZone 0x30 5)).keys := by
    decide +kernel
  exact .powerLost written

theorem zone_loaded :
    Restores (entriesAt (configEntry (zoneConfig oldZone 0x30 5))
      (zoneCall.run .working (zoneConfig oldZone 0x30 5)) zoneWritten) (zoneConfig newZone 0x30 6) := by
  unfold Restores
  decide +kernel

theorem new_zone_with_old_token :
    Committed ⟨zoneConfig oldZone 0x30 5, configEntry (zoneConfig oldZone 0x30 5)⟩ ∧
      ¬CallAtomic ⟨zoneConfig oldZone 0x30 5, configEntry (zoneConfig oldZone 0x30 5)⟩ zoneCall := by
  refine ⟨zoneDevice_committed, fun atomic => ?_⟩
  obtain ⟨before | after, -⟩ := atomic .working .powerLost zoneWritten zone_durable
  · have same := restores_unique before zone_loaded
    exact absurd (congrArg StoredConfig.cloudflareZoneName same) (by decide)
  · have same := restores_unique after zone_loaded
    exact absurd (congrArg StoredConfig.cloudflareZoneId same) (by decide +kernel)

end NtsTimeServer.Proof
