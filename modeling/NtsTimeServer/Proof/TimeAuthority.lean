import NtsTimeServer.Lib.CString
import NtsTimeServer.Lib.Run
import NtsTimeServer.Model.GnssTime

namespace NtsTimeServer.Proof
open Model Lib

def utcFields (time : GnssTime) : Bool × Bool × Int × Int × Nat :=
  (time.gnss.status.utcValid, time.gnss.status.utcFromUbxPvt, time.utcSeconds, time.utcAgeUs,
    time.lastUtcRxUs)

def validPvt : GnssEvent → Option Int
  | .navPvt payload _ => if payload.length < 92 then none else navPvtEpoch payload
  | .nmeaLine .. | .navTimels .. | .timTp .. | .staleness _ => none

def changingLine (time : GnssTime) (event : GnssEvent) : Bool :=
  match event with
  | .nmeaLine .. => decide (utcFields (time.step event) ≠ utcFields time)
  | .navPvt .. | .navTimels .. | .timTp .. | .staleness _ => false

structure GnssHistory where
  time : GnssTime
  nowUs : Nat
  /-- epoch and receive time of the latest fully valid NAV-PVT -/
  lastPvt : Option (Int × Nat)
  /-- a line has changed UTC since -/
  lineSince : Bool
  /-- when UTC was set last -/
  utcSetUs : Nat

def gnssHistoryInit : GnssHistory := ⟨gnssTimeInit, 0, none, false, 0⟩

def GnssHistory.next (h : GnssHistory) (event : GnssEvent) : GnssHistory where
  time := h.time.step event
  nowUs := event.nowUs
  lastPvt := ((validPvt event).map (·, event.nowUs)).or h.lastPvt
  lineSince := (validPvt event).isNone && (h.lineSince || changingLine h.time event)
  utcSetUs := if (validPvt event).isSome ∨ changingLine h.time event then event.nowUs else h.utcSetUs

def GnssHistory.Timely (h : GnssHistory) (event : GnssEvent) : Prop :=
  0 < event.nowUs ∧ h.nowUs ≤ event.nowUs

abbrev GnssRun := Run (fun (h : GnssHistory) event => some (h.next event)) GnssHistory.Timely gnssHistoryInit

variable {time : GnssTime}

theorem processNmeaLine_cases (time : GnssTime) (line : Bytes) (nowUs : Nat) :
    (utcFields (processNmeaLine time line nowUs) = utcFields time ∧
        (processNmeaLine time line nowUs).lastPvtRxUs = time.lastPvtRxUs) ∨
      (time.gnss.status.utcFromUbxPvt = false ∨ time.lastPvtRxUs = 0 ∨
          nowUs - time.lastPvtRxUs > appGnssTimeoutUs) ∧
        ∃ epoch, utcFields (processNmeaLine time line nowUs) = (true, false, epoch, 0, nowUs) ∧
          (processNmeaLine time line nowUs).lastPvtRxUs = time.lastPvtRxUs := by
  rw [processNmeaLine]
  split
  · exact Or.inl ⟨rfl, rfl⟩
  cases parseZdaEpoch line with
  | none => exact Or.inl ⟨rfl, rfl⟩
  | some epoch =>
      dsimp only
      split
      · rename_i taken
        exact Or.inr ⟨by simpa using taken, epoch, rfl, rfl⟩
      · exact Or.inl ⟨rfl, rfl⟩

theorem handleUbxNavPvt_cases (time : GnssTime) (payload : Bytes) (nowUs : Nat) :
    (∃ epoch, validPvt (.navPvt payload nowUs) = some epoch ∧
        utcFields (handleUbxNavPvt time payload nowUs) = (true, true, epoch, 0, nowUs) ∧
        (handleUbxNavPvt time payload nowUs).lastPvtRxUs = nowUs) ∨
      validPvt (.navPvt payload nowUs) = none ∧
        (∃ valid, utcFields (handleUbxNavPvt time payload nowUs) =
          (time.gnss.status.utcValid && valid, (utcFields time).2)) ∧
        (handleUbxNavPvt time payload nowUs).lastPvtRxUs = time.lastPvtRxUs := by
  rw [handleUbxNavPvt, validPvt]
  split
  · exact Or.inr ⟨rfl, ⟨true, by simp [utcFields]⟩, rfl⟩
  dsimp only
  cases navPvtEpoch payload with
  | some epoch => exact Or.inl ⟨epoch, rfl, rfl, rfl⟩
  | none =>
      refine Or.inr ⟨rfl, ?_⟩
      dsimp only
      split
      · exact ⟨⟨false, by simp [utcFields, GnssTime.setStatus]⟩, rfl⟩
      · exact ⟨⟨true, by simp [utcFields, GnssTime.setStatus]⟩, rfl⟩

theorem handleUbxNavTimels_utc (time : GnssTime) (payload : Bytes) :
    utcFields (handleUbxNavTimels time payload) = utcFields time ∧
      (handleUbxNavTimels time payload).lastPvtRxUs = time.lastPvtRxUs := by
  rw [handleUbxNavTimels]
  split <;> exact ⟨rfl, rfl⟩

theorem handleUbxTimTpPayload_utc (time : GnssTime) (payload : Bytes) (nowUs : Nat) :
    utcFields (handleUbxTimTpPayload time payload nowUs) = utcFields time ∧
      (handleUbxTimTpPayload time payload nowUs).lastPvtRxUs = time.lastPvtRxUs := by
  rw [handleUbxTimTpPayload]
  split <;> exact ⟨rfl, rfl⟩

structure Watched (before after : GnssTime) (nowUs : Nat) : Prop where
  utcSeconds : after.utcSeconds = before.utcSeconds
  lastUtc : after.lastUtcRxUs = before.lastUtcRxUs
  lastPvt : after.lastPvtRxUs = before.lastPvtRxUs
  source : after.gnss.status.utcFromUbxPvt = true → before.gnss.status.utcFromUbxPvt = true
  valid : after.gnss.status.utcValid = true → before.gnss.status.utcValid = true ∧
    (0 < before.lastUtcRxUs → nowUs - before.lastUtcRxUs ≤ appGnssTimeoutUs)

theorem updateStaleness_watched (time : GnssTime) (nowUs : Nat) :
    Watched time (updateStaleness time nowUs) nowUs := by
  rw [updateStaleness]
  dsimp only
  split
  · rename_i set
    split
    · exact ⟨rfl, rfl, rfl, nofun, nofun⟩
    · rename_i recent
      refine ⟨rfl, rfl, rfl, id, fun valid => ⟨valid, fun _ => ?_⟩⟩
      omega
  · rename_i unset
    exact ⟨rfl, rfl, rfl, id, fun valid => ⟨valid, fun received => absurd ⟨valid, received⟩ unset⟩⟩

/-! ## What holds after every run -/

structure Authority (h : GnssHistory) : Prop where
  received : h.time.lastPvtRxUs = (h.lastPvt.map Prod.snd).getD 0
  positive : ∀ pvt, h.lastPvt = some pvt → 0 < pvt.2
  source : h.time.gnss.status.utcFromUbxPvt = true →
    h.lastPvt = some (h.time.utcSeconds, h.time.lastUtcRxUs) ∧ h.lineSince = false
  set : h.time.gnss.status.utcValid = true → 0 < h.time.lastUtcRxUs
  setUs : h.time.lastUtcRxUs = h.utcSetUs

theorem authority_init : Authority gnssHistoryInit := ⟨rfl, nofun, nofun, nofun, rfl⟩

variable {h : GnssHistory} {event : GnssEvent}

theorem Authority.quiet (authority : Authority h) (notPvt : validPvt event = none)
    (fields : utcFields (h.time.step event) = utcFields h.time)
    (pvt : (h.time.step event).lastPvtRxUs = h.time.lastPvtRxUs) : Authority (h.next event) := by
  have noLine : changingLine h.time event = false := by
    cases event <;> simp [changingLine, fields]
  simp only [utcFields, Prod.mk.injEq] at fields
  obtain ⟨valid, source, seconds, -, lastUtc⟩ := fields
  constructor <;> simp only [GnssHistory.next, notPvt, noLine, valid, source, seconds, lastUtc, pvt,
    Option.map_none, Option.none_or, Option.isNone_none, Option.isSome_none, Bool.or_false,
    Bool.true_and, Bool.false_eq_true, or_self, if_false]
  · exact authority.received
  · exact authority.positive
  · exact authority.source
  · exact authority.set
  · exact authority.setUs

theorem Authority.line (authority : Authority h) {line : Bytes} {nowUs : Nat} {epoch : Int}
    (received : 0 < nowUs)
    (fields : utcFields (processNmeaLine h.time line nowUs) = (true, false, epoch, 0, nowUs))
    (pvt : (processNmeaLine h.time line nowUs).lastPvtRxUs = h.time.lastPvtRxUs) :
    Authority (h.next (.nmeaLine line nowUs)) := by
  have setUs : nowUs = if changingLine h.time (.nmeaLine line nowUs) then nowUs else h.utcSetUs := by
    split
    · rfl
    · rename_i same
      have unchanged : utcFields (processNmeaLine h.time line nowUs) = utcFields h.time := by
        by_contra differs
        exact same (decide_eq_true differs)
      rw [fields] at unchanged
      rw [← authority.setUs]
      exact congrArg (fun fields => fields.2.2.2.2) unchanged
  simp only [utcFields, Prod.mk.injEq] at fields
  obtain ⟨valid, source, -, -, lastUtc⟩ := fields
  constructor <;> simp only [GnssHistory.next, GnssTime.step, validPvt, GnssEvent.nowUs, source, lastUtc,
    pvt, Option.map_none, Option.none_or, Option.isSome_none, Bool.false_eq_true, false_or]
  · exact authority.received
  · exact authority.positive
  · exact nofun
  · exact fun _ => received
  · exact setUs

theorem Authority.pvt (authority : Authority h) (payload : Bytes) {nowUs : Nat} (received : 0 < nowUs) :
    Authority (h.next (.navPvt payload nowUs)) := by
  rcases handleUbxNavPvt_cases h.time payload nowUs with
    ⟨epoch, valid, fields, pvt⟩ | ⟨notPvt, ⟨kept, fields⟩, pvt⟩
  · simp only [utcFields, Prod.mk.injEq] at fields
    obtain ⟨-, source, seconds, -, lastUtc⟩ := fields
    constructor <;> simp only [GnssHistory.next, GnssTime.step, valid, GnssEvent.nowUs, source, seconds,
      lastUtc, pvt, Option.map_some, Option.some_or, Option.isSome_some, Option.isNone_some,
      Bool.false_and, true_or, if_true]
    · rfl
    · exact fun _ same => Option.some.inj same ▸ received
    · simp
    · exact fun _ => received
  · simp only [utcFields, Prod.mk.injEq] at fields
    obtain ⟨valid, source, seconds, -, lastUtc⟩ := fields
    constructor <;> simp only [GnssHistory.next, GnssTime.step, notPvt, valid, source, seconds, lastUtc,
      pvt, changingLine, Option.map_none, Option.none_or, Option.isSome_none, Option.isNone_none,
      Bool.or_false, Bool.true_and, Bool.false_eq_true, or_self, if_false]
    · exact authority.received
    · exact authority.positive
    · exact authority.source
    · exact fun both => authority.set (Bool.and_eq_true_iff.mp both).1
    · exact authority.setUs

theorem Authority.stale (authority : Authority h) (nowUs : Nat) :
    Authority (h.next (.staleness nowUs)) := by
  obtain ⟨seconds, lastUtc, pvt, source, valid⟩ := updateStaleness_watched h.time nowUs
  constructor <;> simp only [GnssHistory.next, GnssTime.step, validPvt, changingLine, seconds, lastUtc,
    pvt, Option.map_none, Option.none_or, Option.isSome_none, Option.isNone_none, Bool.or_false,
    Bool.true_and, Bool.false_eq_true, or_self, if_false]
  · exact authority.received
  · exact authority.positive
  · exact fun kept => authority.source (source kept)
  · exact fun kept => authority.set (valid kept).1
  · exact authority.setUs

theorem Authority.next (authority : Authority h) (timely : h.Timely event) : Authority (h.next event) := by
  cases event with
  | navTimels payload nowUs =>
      obtain ⟨fields, pvt⟩ := handleUbxNavTimels_utc h.time payload
      exact authority.quiet rfl fields pvt
  | timTp payload nowUs =>
      obtain ⟨fields, pvt⟩ := handleUbxTimTpPayload_utc h.time payload nowUs
      exact authority.quiet rfl fields pvt
  | nmeaLine line nowUs =>
      rcases processNmeaLine_cases h.time line nowUs with ⟨fields, pvt⟩ | ⟨-, epoch, fields, pvt⟩
      · exact authority.quiet rfl fields pvt
      · exact authority.line timely.1 fields pvt
  | navPvt payload nowUs => exact authority.pvt payload timely.1
  | staleness nowUs => exact authority.stale nowUs

theorem authority_run {past : List GnssEvent} (run : GnssRun past h) : Authority h :=
  run.invariant (fun _ h => Authority h) authority_init fun _ _ _ _ authority timely taken =>
    Option.some.inj taken ▸ authority.next timely

/-- Who may set UTC: NAV-PVT always, a line only in its absence, and nobody forever. -/
theorem gnss_time_authority {past : List GnssEvent} (run : GnssRun past h) :
    (h.time.gnss.status.utcValid = true → h.time.gnss.status.utcFromUbxPvt = true →
      (∃ receivedUs, h.lastPvt = some (h.time.utcSeconds, receivedUs)) ∧
        h.time.lastUtcRxUs = h.time.lastPvtRxUs ∧ h.lineSince = false) ∧
    (∀ line nowUs, h.Timely (.nmeaLine line nowUs) →
      (processNmeaLine h.time line nowUs).utcSeconds ≠ h.time.utcSeconds →
      h.time.gnss.status.utcFromUbxPvt = false ∨
        ∃ pvt, h.lastPvt = some pvt ∧ nowUs - pvt.2 > appGnssTimeoutUs) ∧
    ∀ nowUs, h.Timely (.staleness nowUs) →
      (updateStaleness h.time nowUs).gnss.status.utcValid = true →
      nowUs ≤ h.utcSetUs + appGnssTimeoutUs := by
  have authority := authority_run run
  refine ⟨fun _ source => ?_, fun line nowUs _ changed => ?_, fun nowUs _ valid => ?_⟩
  · obtain ⟨pvt, lineSince⟩ := authority.source source
    exact ⟨⟨_, pvt⟩, by rw [authority.received, pvt]; rfl, lineSince⟩
  · rcases processNmeaLine_cases h.time line nowUs with ⟨fields, -⟩ | ⟨free, -⟩
    · exact absurd (congrArg (fun fields => fields.2.2.1) fields) changed
    cases source : h.time.gnss.status.utcFromUbxPvt with
    | false => exact Or.inl rfl
    | true =>
        obtain ⟨pvt, -⟩ := authority.source source
        have received := authority.received
        have positive := authority.positive _ pvt
        rw [pvt] at received
        refine Or.inr ⟨_, pvt, ?_⟩
        rw [source, received] at free
        exact (free.resolve_left nofun).resolve_left positive.ne'
  · obtain ⟨before, recent⟩ := (updateStaleness_watched h.time nowUs).valid valid
    have age := recent (authority.set before)
    rw [authority.setUs] at age
    omega

def noonPvt : Bytes :=
  [0, 0, 0, 0, 0xEA, 0x07, 10, 9, 12, 0, 0, 7] ++ List.replicate 8 0 ++ [3, 1, 0, 12] ++
    List.replicate 68 0

/-- Eleven by a line, noon by a NAV-PVT, a line a second later, and a turn of the watchdog. -/
def noonHistory : GnssHistory :=
  (((gnssHistoryInit.next (.nmeaLine (ascii "$GPZDA,110000.00,09,10,2026,00,00*68") 500000)).next
    (.navPvt noonPvt 1000000)).next
      (.nmeaLine (ascii "$GPZDA,120001.00,09,10,2026,00,00*6A") 2000000)).next (.staleness 4000000)

theorem gnss_time_authority_at_noon : noonHistory.time.validZdaMessages = 2 ∧
    noonHistory.lineSince = false ∧
    (∃ receivedUs, noonHistory.lastPvt = some (1791547200, receivedUs)) ∧
    ∃ pvt, noonHistory.lastPvt = some pvt ∧ 7000000 - pvt.2 > appGnssTimeoutUs := by
  have run : GnssRun [.staleness 4000000, .nmeaLine (ascii "$GPZDA,120001.00,09,10,2026,00,00*6A") 2000000,
      .navPvt noonPvt 1000000, .nmeaLine (ascii "$GPZDA,110000.00,09,10,2026,00,00*68") 500000]
      noonHistory := by
    refine .next (.next (.next (.next .start ?_ rfl) ?_ rfl) ?_ rfl) ?_ rfl <;> constructor <;> decide
  obtain ⟨authority, line, -⟩ := gnss_time_authority run
  obtain ⟨pvt, -, lineSince⟩ := authority (by decide +kernel) (by decide +kernel)
  refine ⟨by decide +kernel, lineSince, pvt, ?_⟩
  have changed := line (ascii "$GPZDA,120001.00,09,10,2026,00,00*6A") 7000000 ⟨by decide, by decide⟩
    (by decide +kernel)
  exact changed.resolve_left (by decide +kernel)

end NtsTimeServer.Proof
