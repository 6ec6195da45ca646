import NtsTimeServer.Proof.NtsKeReading

namespace NtsTimeServer.Proof
open Model Lib

/-! ## The grammar -/

structure Offers (body : Bytes) (wanted : Nat) : Prop where
  nonempty : body.length ≠ 0
  even : body.length % 2 = 0
  listed : ∃ index, 2 * index + 2 ≤ body.length ∧ readBe16 body (2 * index) = wanted

def isNextProtocol (record : Record) : Bool := record.type = ntsKeRecordNextProtocol

def isAead (record : Record) : Bool := record.type = ntsKeRecordAeadAlgorithm

def knownTypes : List Nat :=
  [ntsKeRecordEndOfMessage, ntsKeRecordNextProtocol, ntsKeRecordError, ntsKeRecordWarning,
    ntsKeRecordAeadAlgorithm, ntsKeRecordNtpServer, ntsKeRecordNtpPort]

structure KeRequest (records : List Record) : Prop where
  endOfMessage : ∃ front, records = front ++ [⟨true, ntsKeRecordEndOfMessage, []⟩] ∧
    ∀ record ∈ front, record.type ≠ ntsKeRecordEndOfMessage
  nextProtocol : ∃ offer, records.filter isNextProtocol = [offer] ∧ offer.critical = true ∧
    Offers offer.body ntsKeProtocolNtpv4
  aead : ∃ offer, records.filter isAead = [offer] ∧ Offers offer.body ntsKeAeadAesSivCmac256
  noFailure : ∀ record ∈ records, record.type ≠ ntsKeRecordError ∧ record.type ≠ ntsKeRecordWarning
  server : ∀ record ∈ records, record.type = ntsKeRecordNtpServer → record.body ≠ []
  port : ∀ record ∈ records, record.type = ntsKeRecordNtpPort → record.body.length = 2
  others : ∀ record ∈ records, record.type ∉ knownTypes → record.critical = false

theorem listContainsU16_iff (body : Bytes) (wanted : Nat) :
    listContainsU16 body wanted = true ↔ Offers body wanted := by
  rw [listContainsU16]
  split
  next odd =>
    refine ⟨nofun, fun offers => ?_⟩
    obtain empty | odd := odd
    · exact absurd empty offers.nonempty
    · exact absurd offers.even odd
  next even =>
    rw [not_or, not_not] at even
    rw [List.any_eq_true]
    constructor
    · rintro ⟨index, member, listed⟩
      have inside := List.mem_range.mp member
      exact ⟨even.1, even.2, index, by omega, beq_iff_eq.mp listed⟩
    · rintro ⟨-, -, index, inside, listed⟩
      exact ⟨index, List.mem_range.mpr (by omega), beq_iff_eq.mpr listed⟩

def walkRecords (tail : Bytes) : KeRequestState → List Record → Except KeRefusal KeRequestState
  | state, [] => if 4 ≤ tail.length then .error (badRequest state) else .ok state
  | state, record :: rest =>
      match parseRecord state record.critical record.type record.body
          (encodeRecords rest ++ tail).isEmpty with
      | .error refused => .error refused
      | .ok state => if state.endSeen then .ok state else walkRecords tail state rest

theorem parseRecords_torn {tail : Bytes} (torn : ¬Whole tail) {fuel : Nat} (enough : tail.length ≤ fuel)
    (state : KeRequestState) : parseRecords fuel state tail = walkRecords tail state [] := by
  rw [walkRecords]
  cases fuel with
  | zero => rw [parseRecords, if_neg (by omega)]
  | succ fuel =>
      rw [parseRecords]
      split
      next header =>
        have incomplete : readBe16 tail 2 > (tail.drop 4).length := by
          rw [List.length_drop]
          by_contra complete
          exact torn ⟨header, by omega⟩
        simp only [if_pos incomplete]
      · rfl

theorem parseRecords_encode {record : Record} (wellFormed : record.WellFormed) (rest : Bytes) (fuel : Nat)
    (state : KeRequestState) :
    parseRecords (fuel + 1) state (record.encode ++ rest) =
      match parseRecord state record.critical record.type record.body rest.isEmpty with
      | .error refused => .error refused
      | .ok state => if state.endSeen then .ok state else parseRecords fuel state rest := by
  have whole := record.whole wellFormed rest
  have fits : ¬record.body.length > (record.body ++ rest).length := by
    rw [List.length_append]
    omega
  rw [parseRecords, if_pos whole.header]
  cases parsed : parseRecord state record.critical record.type record.body rest.isEmpty <;>
    simp only [record.readLength wellFormed, record.readTag wellFormed, isCritical_tag wellFormed,
      recordType_tag wellFormed, record.drop_header, List.take_left, List.drop_left, if_neg fits, parsed]

theorem parseRecords_walk {bytes tail : Bytes} {records : List Record} (torn : Torn bytes records tail)
    {fuel : Nat} (enough : bytes.length ≤ fuel) (state : KeRequestState) :
    parseRecords fuel state bytes = walkRecords tail state records := by
  obtain ⟨rfl, wellFormed, torn⟩ := torn
  induction records generalizing fuel state with
  | nil => exact parseRecords_torn torn enough state
  | cons record rest ih =>
      obtain ⟨recordFits, wellFormed⟩ := List.forall_mem_cons.mp wellFormed
      rw [encodeRecords_cons, List.append_assoc] at enough ⊢
      rw [List.length_append, Record.encode_length] at enough
      obtain ⟨fuel, rfl⟩ := Nat.exists_eq_succ_of_ne_zero (by omega : fuel ≠ 0)
      rw [parseRecords_encode recordFits, walkRecords]
      cases parseRecord state record.critical record.type record.body
          (encodeRecords rest ++ tail).isEmpty with
      | error refused => rfl
      | ok next =>
          have later := @ih fuel next wellFormed (by omega)
          simp only [later]

inductive NamesError : KeRefusal → Prop
  | badRequest (state : KeRequestState) : NamesError (badRequest state)
  | unrecognizedCritical (state : KeRequestState) :
      NamesError (.notSupported, { state with protocolError := ntsKeErrorUnrecognizedCritical })

theorem parseRecord_namesError {state : KeRequestState} {critical : Bool} {type : Nat} {body : Bytes}
    {last : Bool} {refused : KeRefusal}
    (parsed : parseRecord state critical type body last = .error refused) : NamesError refused := by
  unfold parseRecord at parsed
  repeat' split at parsed
  all_goals cases parsed
  all_goals constructor

theorem parseRecords_namesError {fuel : Nat} {state : KeRequestState} {rest : Bytes}
    {refused : KeRefusal} (parsed : parseRecords fuel state rest = .error refused) :
    NamesError refused := by
  induction fuel generalizing state rest with
  | zero => cases parsed
  | succ fuel ih =>
      rw [parseRecords] at parsed
      split at parsed
      · dsimp only at parsed
        split at parsed
        · cases parsed
          constructor
        · split at parsed
          next refusedHere =>
            cases parsed
            exact parseRecord_namesError refusedHere
          · split at parsed
            · cases parsed
            · exact ih parsed
      · cases parsed

theorem parseRequest_namesError {request : Bytes} (refused : (parseRequest request).1 ≠ .ok) :
    NamesError (parseRequest request) := by
  rw [parseRequest] at refused ⊢
  split at refused
  next stopped => exact parseRecords_namesError stopped
  · split at refused
    next incomplete =>
      rw [if_pos incomplete]
      constructor
    · exact absurd rfl refused

theorem NamesError.not_ok {refused : KeRefusal} (names : NamesError refused) : refused.1 ≠ .ok := by
  cases names <;> nofun

def stateAfter (done : List Record) : KeRequestState where
  nextProtocolSeen := done.any isNextProtocol
  aeadSeen := done.any isAead
  endSeen := done.any fun record => record.type = ntsKeRecordEndOfMessage
  ntpv4Offered := done.any fun record =>
    isNextProtocol record && listContainsU16 record.body ntsKeProtocolNtpv4
  aesSivOffered := done.any fun record =>
    isAead record && listContainsU16 record.body ntsKeAeadAesSivCmac256
  protocolError := 0

@[mk_iff] structure AdmissibleRecord (record : Record) : Prop where
  nextProtocol : isNextProtocol record = true →
    record.critical = true ∧ record.body.length ≠ 0 ∧ record.body.length % 2 = 0
  aead : isAead record = true → record.body.length ≠ 0 ∧ record.body.length % 2 = 0
  noFailure : record.type ≠ ntsKeRecordError ∧ record.type ≠ ntsKeRecordWarning
  server : record.type = ntsKeRecordNtpServer → record.body ≠ []
  port : record.type = ntsKeRecordNtpPort → record.body.length = 2
  others : record.type ∉ knownTypes → record.critical = false

@[mk_iff] structure NotRepeated (done : List Record) (record : Record) : Prop where
  nextProtocol : isNextProtocol record = true → done.any isNextProtocol = false
  aead : isAead record = true → done.any isAead = false

theorem stateAfter_append (done : List Record) (record : Record) :
    stateAfter (done ++ [record]) = {
      nextProtocolSeen := (stateAfter done).nextProtocolSeen || isNextProtocol record
      aeadSeen := (stateAfter done).aeadSeen || isAead record
      endSeen := (stateAfter done).endSeen || decide (record.type = ntsKeRecordEndOfMessage)
      ntpv4Offered := (stateAfter done).ntpv4Offered ||
        (isNextProtocol record && listContainsU16 record.body ntsKeProtocolNtpv4)
      aesSivOffered := (stateAfter done).aesSivOffered ||
        (isAead record && listContainsU16 record.body ntsKeAeadAesSivCmac256)
      protocolError := 0 } := by
  simp [stateAfter]

theorem any_and_eq_false {α : Type} {list : List α} {p : α → Bool} (none : list.any p = false)
    (q : α → Bool) : (list.any fun a => p a && q a) = false := by
  rw [List.any_eq_false] at none ⊢
  intro a member
  simp [none a member]

theorem ntpv4Offered_of_unseen {done : List Record} (unseen : (stateAfter done).nextProtocolSeen = false) :
    (stateAfter done).ntpv4Offered = false := any_and_eq_false unseen _

theorem aesSivOffered_of_unseen {done : List Record} (unseen : (stateAfter done).aeadSeen = false) :
    (stateAfter done).aesSivOffered = false := any_and_eq_false unseen _

theorem parseRecord_ok_iff {record : Record} (notEnd : record.type ≠ ntsKeRecordEndOfMessage)
    (done : List Record) (last : Bool) (next : KeRequestState) :
    parseRecord (stateAfter done) record.critical record.type record.body last = .ok next ↔
      AdmissibleRecord record ∧ NotRepeated done record ∧ next = stateAfter (done ++ [record]) := by
  have error : (stateAfter done).protocolError = 0 := rfl
  have ntpv4 := @ntpv4Offered_of_unseen done
  have aesSiv := @aesSivOffered_of_unseen done
  have repeated : NotRepeated done record ↔
      (isNextProtocol record = true → (stateAfter done).nextProtocolSeen = false) ∧
        (isAead record = true → (stateAfter done).aeadSeen = false) := notRepeated_iff _ _
  rw [repeated, stateAfter_append, admissibleRecord_iff]
  generalize stateAfter done = state at *
  obtain ⟨nextProtocolSeen, aeadSeen, endSeen, ntpv4Offered, aesSivOffered, protocolError⟩ := state
  obtain ⟨critical, type, body⟩ := record
  dsimp only at *
  subst error
  rw [parseRecord, if_neg notEnd]
  unfold isNextProtocol isAead knownTypes
  simp only [ntsKeRecordEndOfMessage, ntsKeRecordNextProtocol, ntsKeRecordError, ntsKeRecordWarning,
    ntsKeRecordAeadAlgorithm, ntsKeRecordNtpServer, ntsKeRecordNtpPort] at notEnd ⊢
  split
  next isNext => subst isNext; grind
  next notNext =>
  split
  next isAead => subst isAead; grind
  next notAead =>
  split
  next isError => grind
  next notError =>
  split
  next isServer => subst isServer; grind
  next notServer =>
  split
  next isPort => subst isPort; grind
  next notPort => grind

theorem parseRecord_end_iff {record : Record} (isEnd : record.type = ntsKeRecordEndOfMessage)
    {done : List Record} (noEnd : (stateAfter done).endSeen = false) (last : Bool)
    (next : KeRequestState) :
    parseRecord (stateAfter done) record.critical record.type record.body last = .ok next ↔
      record = ⟨true, ntsKeRecordEndOfMessage, []⟩ ∧ last = true ∧
        next = stateAfter (done ++ [record]) := by
  have error : (stateAfter done).protocolError = 0 := rfl
  rw [stateAfter_append]
  generalize stateAfter done = state at *
  obtain ⟨nextProtocolSeen, aeadSeen, endSeen, ntpv4Offered, aesSivOffered, protocolError⟩ := state
  obtain ⟨critical, type, body⟩ := record
  dsimp only at *
  subst error noEnd isEnd
  rw [parseRecord, if_pos rfl]
  unfold isNextProtocol isAead
  simp only [ntsKeRecordEndOfMessage, ntsKeRecordNextProtocol, ntsKeRecordAeadAlgorithm]
  grind

/-! ## What a whole request needs -/

/-- The records fit after those that are done, one by one, and only the last one ends the message. -/
inductive FitsAfter : List Record → List Record → Prop
  | last {done : List Record} : FitsAfter done [⟨true, ntsKeRecordEndOfMessage, []⟩]
  | record {done rest : List Record} {record : Record} : record.type ≠ ntsKeRecordEndOfMessage →
      AdmissibleRecord record → NotRepeated done record → FitsAfter (done ++ [record]) rest →
      FitsAfter done (record :: rest)

theorem endSeen_append_other {done : List Record} {record : Record}
    (notEnd : record.type ≠ ntsKeRecordEndOfMessage) (noEnd : (stateAfter done).endSeen = false) :
    (stateAfter (done ++ [record])).endSeen = false := by
  rw [stateAfter_append]
  simp [noEnd, notEnd]

theorem walkRecords_of_fits {done records : List Record} (fits : FitsAfter done records)
    (noEnd : (stateAfter done).endSeen = false) :
    walkRecords [] (stateAfter done) records = .ok (stateAfter (done ++ records)) := by
  induction fits with
  | @last done =>
      have parsed := (@parseRecord_end_iff ⟨true, ntsKeRecordEndOfMessage, []⟩ rfl _ noEnd true _).mpr ⟨rfl, rfl, rfl⟩
      have ended : (stateAfter (done ++ [⟨true, ntsKeRecordEndOfMessage, []⟩])).endSeen = true := by
        simp [stateAfter]
      have nothing : (encodeRecords [] ++ []).isEmpty = true := rfl
      rw [walkRecords, nothing, parsed]
      exact if_pos ended
  | @record done rest record notEnd admissible notRepeated fits ih =>
      have parsed := (parseRecord_ok_iff notEnd done (encodeRecords rest ++ []).isEmpty _).mpr
        ⟨admissible, notRepeated, rfl⟩
      have open_ := endSeen_append_other notEnd noEnd
      have later := ih open_
      rw [List.append_assoc, List.singleton_append] at later
      rw [walkRecords, parsed]
      simp only [open_, later]
      rfl

theorem fits_of_walkRecords {tail : Bytes} {done records : List Record} {state : KeRequestState}
    (noEnd : (stateAfter done).endSeen = false)
    (walked : walkRecords tail (stateAfter done) records = .ok state) (ended : state.endSeen = true) :
    tail = [] ∧ FitsAfter done records ∧ state = stateAfter (done ++ records) := by
  induction records generalizing done with
  | nil =>
      rw [walkRecords] at walked
      split at walked <;> cases walked
      rw [noEnd] at ended
      cases ended
  | cons record rest ih =>
      rw [walkRecords] at walked
      cases parsed : parseRecord (stateAfter done) record.critical record.type record.body
          (encodeRecords rest ++ tail).isEmpty with
      | error refused =>
          rw [parsed] at walked
          cases walked
      | ok next =>
          rw [parsed] at walked
          by_cases isEnd : record.type = ntsKeRecordEndOfMessage
          · obtain ⟨rfl, nothing, rfl⟩ := (parseRecord_end_iff isEnd noEnd _ _).mp parsed
            obtain ⟨noRest, noTail⟩ := List.append_eq_nil_iff.mp (List.isEmpty_iff.mp nothing)
            have last : rest = [] := by
              cases rest with
              | nil => rfl
              | cons record rest =>
                  have length := congrArg List.length noRest
                  simp at length
            have seen : (stateAfter (done ++ [⟨true, ntsKeRecordEndOfMessage, []⟩])).endSeen = true := by
              simp [stateAfter]
            subst last
            simp only [seen, if_true] at walked
            exact ⟨noTail, .last, (Except.ok.inj walked).symm⟩
          · obtain ⟨admissible, notRepeated, rfl⟩ := (parseRecord_ok_iff isEnd done _ _).mp parsed
            have open_ := endSeen_append_other isEnd noEnd
            simp only [open_, Bool.false_eq_true, if_false] at walked
            obtain ⟨noTail, fits, same⟩ := ih open_ walked
            rw [List.append_assoc, List.singleton_append] at same
            exact ⟨noTail, .record isEnd admissible notRepeated fits, same⟩

structure Complete (state : KeRequestState) : Prop where
  endSeen : state.endSeen = true
  nextProtocolSeen : state.nextProtocolSeen = true
  ntpv4Offered : state.ntpv4Offered = true
  aeadSeen : state.aeadSeen = true
  aesSivOffered : state.aesSivOffered = true

theorem parseRequest_ok_iff (request : Bytes) :
    (parseRequest request).1 = .ok ↔ ∃ records, (∀ record ∈ records, record.WellFormed) ∧
      request = encodeRecords records ∧ FitsAfter [] records ∧ Complete (stateAfter records) := by
  have start : keRequestInit = stateAfter [] := rfl
  constructor
  · intro accepted
    obtain ⟨records, tail, torn⟩ := exists_torn request
    have walk := parseRecords_walk torn le_rfl (stateAfter [])
    rw [parseRequest, start] at accepted
    cases walked : walkRecords tail (stateAfter []) records with
    | error refused =>
        rw [walked] at walk
        rw [walk] at accepted
        exact absurd accepted (parseRecords_namesError walk).not_ok
    | ok state =>
        simp only [walk, walked] at accepted
        split at accepted
        · cases accepted
        next complete =>
          simp only [not_or, not_not] at complete
          obtain ⟨endSeen, nextProtocolSeen, ntpv4Offered, aeadSeen, aesSivOffered⟩ := complete
          obtain ⟨rfl, fits, rfl⟩ := fits_of_walkRecords rfl walked endSeen
          exact ⟨records, torn.wellFormed, by rw [torn.split, List.append_nil], fits, endSeen,
            nextProtocolSeen, ntpv4Offered, aeadSeen, aesSivOffered⟩
  · rintro ⟨records, wellFormed, rfl, fits, complete⟩
    have torn : Torn (encodeRecords records) records [] :=
      ⟨(List.append_nil _).symm, wellFormed, fun whole => absurd whole.header (by decide)⟩
    have walked := walkRecords_of_fits fits rfl
    rw [List.nil_append] at walked
    rw [parseRequest, parseRecords_walk torn le_rfl, start, walked]
    dsimp only
    rw [complete.endSeen, complete.nextProtocolSeen, complete.ntpv4Offered, complete.aeadSeen,
      complete.aesSivOffered]
    rfl

structure AtMostOne (records : List Record) : Prop where
  nextProtocol : records.countP isNextProtocol ≤ 1
  aead : records.countP isAead ≤ 1

theorem countP_append_singleton_le_one {α : Type} {list : List α} {p : α → Bool} {a : α} :
    (list ++ [a]).countP p ≤ 1 ↔ list.countP p ≤ 1 ∧ (p a = true → list.any p = false) := by
  have none : list.countP p = 0 ↔ list.any p = false := by
    rw [List.countP_eq_zero, List.any_eq_false]
  rw [List.countP_append, List.countP_singleton, ← none]
  split
  next holds =>
    constructor
    · intro one
      exact ⟨by omega, fun _ => by omega⟩
    · rintro ⟨-, first⟩
      have zero := first holds
      omega
  next fails => simp [fails]

theorem atMostOne_append_singleton {done : List Record} {record : Record} :
    AtMostOne (done ++ [record]) ↔ AtMostOne done ∧ NotRepeated done record := by
  constructor
  · rintro ⟨nextProtocol, aead⟩
    obtain ⟨oneNextProtocol, firstNextProtocol⟩ := countP_append_singleton_le_one.mp nextProtocol
    obtain ⟨oneAead, firstAead⟩ := countP_append_singleton_le_one.mp aead
    exact ⟨⟨oneNextProtocol, oneAead⟩, firstNextProtocol, firstAead⟩
  · rintro ⟨⟨oneNextProtocol, oneAead⟩, firstNextProtocol, firstAead⟩
    exact ⟨countP_append_singleton_le_one.mpr ⟨oneNextProtocol, firstNextProtocol⟩,
      countP_append_singleton_le_one.mpr ⟨oneAead, firstAead⟩⟩

theorem AtMostOne.of_append {first second : List Record} (one : AtMostOne (first ++ second)) :
    AtMostOne first := by
  obtain ⟨nextProtocol, aead⟩ := one
  rw [List.countP_append] at nextProtocol aead
  exact ⟨by omega, by omega⟩

/-- The records of a request with the End of Message record taken off. -/
structure RequestFront (done front : List Record) : Prop where
  notEnd : ∀ record ∈ front, record.type ≠ ntsKeRecordEndOfMessage
  admissible : ∀ record ∈ front, AdmissibleRecord record
  atMostOne : AtMostOne (done ++ front)

theorem fitsAfter_iff {done records : List Record} (one : AtMostOne done) :
    FitsAfter done records ↔
      ∃ front, records = front ++ [⟨true, ntsKeRecordEndOfMessage, []⟩] ∧ RequestFront done front := by
  constructor
  · intro fits
    induction fits with
    | last => exact ⟨[], rfl, nofun, nofun, by rwa [List.append_nil]⟩
    | record notEnd admissible notRepeated fits ih =>
        obtain ⟨front, rfl, others⟩ := ih (atMostOne_append_singleton.mpr ⟨one, notRepeated⟩)
        refine ⟨_ :: front, rfl, List.forall_mem_cons.mpr ⟨notEnd, others.notEnd⟩,
          List.forall_mem_cons.mpr ⟨admissible, others.admissible⟩, ?_⟩
        have atMostOne := others.atMostOne
        rwa [List.append_assoc] at atMostOne
  · rintro ⟨front, rfl, notEnd, admissible, atMostOne⟩
    induction front generalizing done with
    | nil => exact .last
    | cons record front ih =>
        obtain ⟨recordNotEnd, notEnd⟩ := List.forall_mem_cons.mp notEnd
        obtain ⟨recordAdmissible, admissible⟩ := List.forall_mem_cons.mp admissible
        rw [List.append_cons] at atMostOne
        have one' := atMostOne.of_append
        exact .record recordNotEnd recordAdmissible (atMostOne_append_singleton.mp one').2
          (ih one' notEnd admissible atMostOne)

theorem filter_eq_singleton {α : Type} {list : List α} {p : α → Bool} {a : α} (one : list.countP p ≤ 1)
    (member : a ∈ list) (holds : p a = true) : list.filter p = [a] := by
  have filtered : a ∈ list.filter p := List.mem_filter.mpr ⟨member, holds⟩
  rw [List.countP_eq_length_filter] at one
  cases same : list.filter p with
  | nil => simp [same] at filtered
  | cons b rest =>
      rw [same] at filtered one
      obtain rfl : rest = [] := List.length_eq_zero_iff.mp (by simpa using one)
      rw [List.mem_singleton.mp filtered]

abbrev endRecord : Record := ⟨true, ntsKeRecordEndOfMessage, []⟩

theorem endRecord_admissible : AdmissibleRecord endRecord where
  nextProtocol := by decide
  aead := by decide
  noFailure := by decide
  server := by decide
  port := by decide
  others := by decide

theorem endRecord_notRepeated (done : List Record) : NotRepeated done endRecord where
  nextProtocol := nofun
  aead := nofun

theorem keRequest_of_fits {records : List Record} (fits : FitsAfter [] records)
    (complete : Complete (stateAfter records)) : KeRequest records := by
  obtain ⟨front, rfl, notEnd, admissible, atMostOne⟩ := (fitsAfter_iff ⟨by simp, by simp⟩).mp fits
  have one : AtMostOne (front ++ [endRecord]) :=
    atMostOne_append_singleton.mpr ⟨atMostOne, endRecord_notRepeated front⟩
  have all : ∀ record ∈ front ++ [endRecord], AdmissibleRecord record := by
    intro record member
    obtain inFront | last := List.mem_append.mp member
    · exact admissible record inFront
    · exact List.mem_singleton.mp last ▸ endRecord_admissible
  refine ⟨⟨front, rfl, notEnd⟩, ?_, ?_, fun record member => (all record member).noFailure,
    fun record member => (all record member).server, fun record member => (all record member).port,
    fun record member => (all record member).others⟩
  · obtain ⟨offer, member, holds⟩ := List.any_eq_true.mp complete.ntpv4Offered
    obtain ⟨isNext, listed⟩ := Bool.and_eq_true_iff.mp holds
    exact ⟨offer, filter_eq_singleton one.nextProtocol member isNext,
      ((all offer member).nextProtocol isNext).1, (listContainsU16_iff _ _).mp listed⟩
  · obtain ⟨offer, member, holds⟩ := List.any_eq_true.mp complete.aesSivOffered
    obtain ⟨isAeadRecord, listed⟩ := Bool.and_eq_true_iff.mp holds
    exact ⟨offer, filter_eq_singleton one.aead member isAeadRecord,
      (listContainsU16_iff _ _).mp listed⟩

theorem eq_of_filter_eq_singleton {α : Type} {list : List α} {p : α → Bool} {a b : α}
    (filtered : list.filter p = [a]) (member : b ∈ list) (holds : p b = true) : b = a := by
  have kept : b ∈ list.filter p := List.mem_filter.mpr ⟨member, holds⟩
  rw [filtered] at kept
  exact List.mem_singleton.mp kept

theorem mem_of_filter_eq_singleton {α : Type} {list : List α} {p : α → Bool} {a : α}
    (filtered : list.filter p = [a]) : a ∈ list ∧ p a = true := by
  have kept : a ∈ list.filter p := filtered ▸ List.mem_singleton_self a
  exact List.mem_filter.mp kept

theorem fits_of_keRequest {records : List Record} (request : KeRequest records) :
    FitsAfter [] records ∧ Complete (stateAfter records) := by
  obtain ⟨⟨front, rfl, notEnd⟩, ⟨protocols, oneProtocol, critical, offered⟩,
    ⟨algorithms, oneAead, offeredAead⟩, noFailure, server, port, others⟩ := request
  have counted {p : Record → Bool} {offer : Record} (one : (front ++ [endRecord]).filter p = [offer]) :
      front.countP p ≤ 1 := by
    have count : (front ++ [endRecord]).countP p = 1 := by
      rw [List.countP_eq_length_filter, one]
      rfl
    rw [List.countP_append] at count
    omega
  obtain ⟨protocolsSent, protocolsType⟩ := mem_of_filter_eq_singleton oneProtocol
  obtain ⟨algorithmsSent, algorithmsType⟩ := mem_of_filter_eq_singleton oneAead
  refine ⟨(fitsAfter_iff ⟨by simp, by simp⟩).mpr ⟨front, rfl, notEnd, ?_, ?_⟩, ?_⟩
  · intro record member
    have sent : record ∈ front ++ [endRecord] := List.mem_append_left _ member
    refine ⟨fun isNext => ?_, fun isAeadRecord => ?_, noFailure record sent, server record sent,
      port record sent, others record sent⟩
    · obtain rfl := eq_of_filter_eq_singleton oneProtocol sent isNext
      exact ⟨critical, offered.nonempty, offered.even⟩
    · obtain rfl := eq_of_filter_eq_singleton oneAead sent isAeadRecord
      exact ⟨offeredAead.nonempty, offeredAead.even⟩
  · exact ⟨counted oneProtocol, counted oneAead⟩
  · have ntpv4 := (listContainsU16_iff _ _).mpr offered
    have aesSiv := (listContainsU16_iff _ _).mpr offeredAead
    exact {
      endSeen := by simp [stateAfter]
      nextProtocolSeen := List.any_eq_true.mpr ⟨protocols, protocolsSent, protocolsType⟩
      ntpv4Offered := List.any_eq_true.mpr ⟨protocols, protocolsSent, by rw [protocolsType, ntpv4]; rfl⟩
      aeadSeen := List.any_eq_true.mpr ⟨algorithms, algorithmsSent, algorithmsType⟩
      aesSivOffered :=
        List.any_eq_true.mpr ⟨algorithms, algorithmsSent, by rw [algorithmsType, aesSiv]; rfl⟩ }

/-! ## Both walks -/

theorem ended_of_read {size : Nat} {received message : Bytes} {reads : List TlsRead}
    (read : tlsReadRequest size received reads = some (.ok, message)) :
    ∃ front last, Ended message front last := by
  induction reads generalizing received with
  | nil =>
      rw [tlsReadRequest] at read
      split at read <;> cases read
  | cons result reads ih =>
      by_cases room : received.length < size
      · cases result with
        | received bytes =>
            cases bytes with
            | nil => simp [tlsReadRequest, room] at read
            | cons byte bytes =>
                rw [tlsReadRequest_received room] at read
                split at read
                · exact ih read
                next rest found =>
                  obtain ⟨message', front, last, ended, split⟩ := restOf_eq_some_iff.mp found
                  obtain ⟨done, rfl⟩ := Prod.mk.inj (Option.some.inj read)
                  cases rest with
                  | nil => exact ⟨front, last, by rwa [split, List.append_nil]⟩
                  | cons _ _ => cases done
        | want => exact ih (by simpa [tlsReadRequest, room] using read)
        | closeNotify => simp [tlsReadRequest, room] at read
        | failed => simp [tlsReadRequest, room] at read
      · rw [tlsReadRequest_full room] at read
        cases read

theorem request_grammar (request : Bytes) :
    ((parseRequest request).1 = .ok ↔ ∃ records, (∀ record ∈ records, record.WellFormed) ∧
      request = encodeRecords records ∧ KeRequest records) ∧
    ∀ reads, tlsReadRequest ntsKeRequestMax [] reads = some (.ok, request) →
      ∃ front last, Ended request front last := by
  refine ⟨?_, fun reads read => ended_of_read read⟩
  rw [parseRequest_ok_iff]
  constructor
  · rintro ⟨records, wellFormed, encoded, fits, complete⟩
    exact ⟨records, wellFormed, encoded, keRequest_of_fits fits complete⟩
  · rintro ⟨records, wellFormed, encoded, keRequest⟩
    exact ⟨records, wellFormed, encoded, fits_of_keRequest keRequest⟩

def smallRequest : Bytes :=
  [0x80, 0x01, 0x00, 0x02, 0x00, 0x00, 0x00, 0x04, 0x00, 0x02, 0x00, 0x0F, 0x40, 0x00, 0x00, 0x01, 0xFF,
    0x80, 0x00, 0x00, 0x00]

theorem smallRequest_grammar : ∃ records, (∀ record ∈ records, record.WellFormed) ∧
    smallRequest = encodeRecords records ∧ KeRequest records :=
  (request_grammar smallRequest).1.mp (by decide +kernel)

end NtsTimeServer.Proof
