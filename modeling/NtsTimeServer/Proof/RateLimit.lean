import NtsTimeServer.Lib.TokenBucket
import NtsTimeServer.Proof.RateTable

namespace NtsTimeServer.Proof
open Model Lib

def Chronological : Int → List RateRequest → Prop
  | _, [] => True
  | nowUs, request :: rest =>
      nowUs ≤ request.nowUs ∧ 0 < request.nowUs ∧ Chronological request.nowUs rest

instance : (nowUs : Int) → (requests : List RateRequest) → Decidable (Chronological nowUs requests)
  | _, [] => inferInstanceAs (Decidable True)
  | nowUs, request :: rest =>
      have := instDecidableChronological request.nowUs rest
      inferInstanceAs (Decidable (nowUs ≤ request.nowUs ∧ 0 < request.nowUs ∧
        Chronological request.nowUs rest))

/-- No request takes the slot of the address over. -/
def KeepsSlot (clientIpv4 : Nat) : List NtpRateClient → List RateRequest → Prop
  | _, [] => True
  | clients, request :: rest =>
      let after := (ntpRateLimitAllow clients request.clientIpv4 request.nowUs).2.2
      ((slotOf clients clientIpv4).isSome → (slotOf after clientIpv4).isSome) ∧
        KeepsSlot clientIpv4 after rest

instance (clientIpv4 : Nat) : (clients : List NtpRateClient) → (requests : List RateRequest) →
    Decidable (KeepsSlot clientIpv4 clients requests)
  | _, [] => inferInstanceAs (Decidable True)
  | clients, request :: rest =>
      have := instDecidableKeepsSlot clientIpv4
        (ntpRateLimitAllow clients request.clientIpv4 request.nowUs).2.2 rest
      inferInstanceAs (Decidable ((_ → _) ∧ KeepsSlot clientIpv4 _ rest))

def fromAddress (clientIpv4 : Nat) (request : RateRequest) : Bool := request.clientIpv4 == clientIpv4

def ownRequests (clientIpv4 : Nat) (requests : List RateRequest) : List RateRequest :=
  requests.filter (fromAddress clientIpv4)

def ownEntries (clientIpv4 : Nat) (entries : List (RateRequest × Bool)) : List (RateRequest × Bool) :=
  entries.filter fun entry => fromAddress clientIpv4 entry.1

def ownDecisions (slot : Option NtpRateClient) : List RateRequest → List (RateRequest × Bool)
  | [] => []
  | request :: rest =>
      let served := serve (slot.getD (assignedClient request.clientIpv4 request.nowUs)) request.nowUs
      (request, served.1) :: ownDecisions (some served.2) rest

theorem rateTable_after {nowUs : Int} {clients : List NtpRateClient} {requests : List RateRequest}
    (table : RateTable nowUs clients) (timed : Chronological nowUs requests) :
    ∃ nowUs, RateTable nowUs (rateTableAfter clients requests) := by
  induction requests generalizing nowUs clients with
  | nil => exact ⟨nowUs, table⟩
  | cons request rest ih => exact ih (rateTable_allow table timed.1 timed.2.1) timed.2.2

theorem timed_split {nowUs : Int} {clients : List NtpRateClient} {past requests : List RateRequest}
    (table : RateTable nowUs clients) (timed : Chronological nowUs (past ++ requests)) :
    ∃ nowUs, RateTable nowUs (rateTableAfter clients past) ∧ Chronological nowUs requests := by
  induction past generalizing nowUs clients with
  | nil => exact ⟨nowUs, table, timed⟩
  | cons request rest ih => exact ih (rateTable_allow table timed.1 timed.2.1) timed.2.2

theorem rateDecisions_own {clientIpv4 : Nat} {nowUs : Int} {clients : List NtpRateClient}
    {requests : List RateRequest} (table : RateTable nowUs clients)
    (timed : Chronological nowUs requests)
    (kept : KeepsSlot clientIpv4 clients requests) :
    ownEntries clientIpv4 (rateDecisions clients requests) =
      ownDecisions (slotOf clients clientIpv4) (ownRequests clientIpv4 requests) := by
  induction requests generalizing nowUs clients with
  | nil => rfl
  | cons request rest ih =>
      have table' := rateTable_allow table timed.1 timed.2.1
      have later := ih table' timed.2.2 kept.2
      rw [ownEntries, ownRequests] at later ⊢
      rw [rateDecisions, List.filter_cons, List.filter_cons]
      by_cases own : request.clientIpv4 = clientIpv4
      · subst own
        have isOwn : fromAddress request.clientIpv4 request = true := beq_self_eq_true _
        obtain ⟨allowed, slot⟩ := slotOf_own table.layout request
        rw [if_pos isOwn, if_pos isOwn, ownDecisions, later, slot, allowed]
        rfl
      · have notOwn : ¬fromAddress clientIpv4 request = true := by simpa [fromAddress] using own
        rw [if_neg notOwn, if_neg notOwn, later]
        rcases slotOf_other table.layout own with same | lost
        · rw [same]
        · cases held : slotOf clients clientIpv4 with
          | none => rw [lost]
          | some client =>
              have still := kept.1 (by rw [held]; rfl)
              rw [lost] at still
              cases still

theorem Chronological.filter {nowUs : Int} {requests : List RateRequest}
    (timed : Chronological nowUs requests) (keep : RateRequest → Bool) :
    Chronological nowUs (requests.filter keep) := by
  have earlier {nowUs later : Int} (le : nowUs ≤ later) {requests : List RateRequest}
      (timed : Chronological later requests) : Chronological nowUs requests := by
    cases requests with
    | nil => trivial
    | cons request rest => exact ⟨le.trans timed.1, timed.2⟩
  induction requests generalizing nowUs with
  | nil => trivial
  | cons request rest ih =>
      rw [List.filter_cons]
      split
      · exact ⟨timed.1, timed.2.1, ih timed.2.2⟩
      · exact earlier timed.1 (ih timed.2.2)

theorem keepsSlot_own {clientIpv4 : Nat} {nowUs : Int} {clients : List NtpRateClient}
    {requests : List RateRequest} (table : RateTable nowUs clients)
    (timed : Chronological nowUs requests)
    (own : ∀ request ∈ requests, fromAddress clientIpv4 request = true) :
    KeepsSlot clientIpv4 clients requests := by
  induction requests generalizing nowUs clients with
  | nil => trivial
  | cons request rest ih =>
      obtain rfl : request.clientIpv4 = clientIpv4 := eq_of_beq (own request List.mem_cons_self)
      refine ⟨fun _ => ?_, ih (rateTable_allow table timed.1 timed.2.1) timed.2.2 fun other member =>
        own other (List.mem_cons_of_mem _ member)⟩
      rw [(slotOf_own table.layout request).2]
      rfl

theorem rateDecisions_fst (clients : List NtpRateClient) (requests : List RateRequest) :
    (rateDecisions clients requests).map Prod.fst = requests := by
  induction requests generalizing clients with
  | nil => rfl
  | cons request rest ih => rw [rateDecisions, List.map_cons, ih]

theorem ownRequests_own {clientIpv4 : Nat} {requests : List RateRequest} :
    ∀ request ∈ ownRequests clientIpv4 requests, fromAddress clientIpv4 request = true :=
  fun _ member => (List.mem_filter.mp member).2

theorem rateDecisions_alone {clientIpv4 : Nat} {nowUs : Int} {clients : List NtpRateClient}
    {requests : List RateRequest} (table : RateTable nowUs clients)
    (timed : Chronological nowUs requests)
    (kept : KeepsSlot clientIpv4 clients requests) :
    ownEntries clientIpv4 (rateDecisions clients requests) =
      rateDecisions clients (ownRequests clientIpv4 requests) := by
  have timed' : Chronological nowUs (ownRequests clientIpv4 requests) := timed.filter _
  have alone := rateDecisions_own table timed' (keepsSlot_own table timed' ownRequests_own)
  have ownOnly : ∀ entry ∈ rateDecisions clients (ownRequests clientIpv4 requests),
      fromAddress clientIpv4 entry.1 = true := by
    intro entry member
    have member' : entry.1 ∈ (rateDecisions clients (ownRequests clientIpv4 requests)).map Prod.fst :=
      List.mem_map_of_mem member
    rw [rateDecisions_fst] at member'
    exact ownRequests_own entry.1 member'
  have again : ownRequests clientIpv4 (ownRequests clientIpv4 requests) =
      ownRequests clientIpv4 requests := List.filter_eq_self.mpr ownRequests_own
  rw [ownEntries, List.filter_eq_self.mpr ownOnly, again] at alone
  rw [rateDecisions_own table timed kept, alone]

/-! ## The most that a window can be allowed -/

def residue (client : NtpRateClient) : Nat :=
  u64 ((client.lastSeenUs - client.lastRefillUs).toNat * appNtpRatePerMinute)

theorem serve_credit {client : NtpRateClient} {nowUs : Int} (sound : SlotSound nowUs client) :
    (serve client nowUs).1.toNat + (serve client nowUs).2.tokens ≤ appNtpRateBurst ∧
      residue (serve client nowUs).2 < 60000000 ∧
      60000000 * ((serve client nowUs).1.toNat + (serve client nowUs).2.tokens) +
          residue (serve client nowUs).2 ≤
        60000000 * client.tokens + residue client + 30 * (nowUs - client.lastSeenUs).toNat := by
  have seen := sound.seen
  have past := sound.past
  let periods := wholePeriods (nowUs - client.lastRefillUs)
  let filled := min (client.tokens + periods) appNtpRateBurst
  have answer : (serve client nowUs).1.toNat + (serve client nowUs).2.tokens = filled := by
    rw [serve_eq sound]
    change (decide (0 < filled)).toNat + (filled - 1) = filled
    by_cases some : 0 < filled
    · rw [decide_eq_true some, Bool.toNat_true]
      omega
    · rw [decide_eq_false some, Bool.toNat_false]
      omega
  have left : residue (serve client nowUs).2 =
      u64 ((nowUs - if periods = 0 then client.lastRefillUs else nowUs).toNat * 30) := by
    rw [serve_eq sound]
    rfl
  have worth : periods = u64 ((nowUs - client.lastRefillUs).toNat * 30) / 60000000 := rfl
  have elapsed : u64 ((nowUs - client.lastRefillUs).toNat * 30) ≤
      residue client + 30 * (nowUs - client.lastSeenUs).toNat := by
    have split : (nowUs - client.lastRefillUs).toNat =
        (client.lastSeenUs - client.lastRefillUs).toNat + (nowUs - client.lastSeenUs).toNat := by
      omega
    rw [split, residue, appNtpRatePerMinute, u64, u64]
    omega
  have least : filled ≤ client.tokens + periods := min_le_left _ _
  rw [answer, left]
  refine ⟨min_le_right _ _, ?_⟩
  by_cases none : periods = 0
  · rw [if_pos none]
    omega
  · rw [if_neg none, Int.sub_self, Int.toNat_zero, Nat.zero_mul]
    have nothing : u64 0 = 0 := rfl
    omega

def allowedWithin (startUs : Int) (lengthUs : Nat) (entry : RateRequest × Bool) : Bool :=
  entry.2 && decide (startUs ≤ entry.1.nowUs) && decide (entry.1.nowUs ≤ startUs + lengthUs)

theorem Chronological.le_of_mem {nowUs : Int} {requests : List RateRequest}
    (timed : Chronological nowUs requests) {request : RateRequest} (member : request ∈ requests) : nowUs ≤ request.nowUs := by
  induction requests generalizing nowUs with
  | nil => cases member
  | cons first rest ih =>
      rcases List.mem_cons.mp member with rfl | member
      · exact timed.1
      · exact timed.1.trans (ih timed.2.2 member)

theorem ownDecisions_fst (slot : Option NtpRateClient) (requests : List RateRequest) :
    (ownDecisions slot requests).map Prod.fst = requests := by
  induction requests generalizing slot with
  | nil => rfl
  | cons request rest ih => rw [ownDecisions, List.map_cons, ih]

theorem countP_after {startUs nowUs : Int} {lengthUs : Nat} {requests : List RateRequest}
    (timed : Chronological nowUs requests) (after : startUs + lengthUs < nowUs)
    (slot : Option NtpRateClient) :
    (ownDecisions slot requests).countP (allowedWithin startUs lengthUs) = 0 := by
  refine List.countP_eq_zero.mpr fun entry member inside => ?_
  have member' : entry.1 ∈ (ownDecisions slot requests).map Prod.fst := List.mem_map_of_mem member
  rw [ownDecisions_fst] at member'
  have := timed.le_of_mem member'
  simp only [allowedWithin, Bool.and_eq_true, decide_eq_true_eq] at inside
  omega

theorem countP_cons_le (startUs : Int) (lengthUs : Nat) (slot : Option NtpRateClient)
    (request : RateRequest) (rest : List RateRequest) :
    let served := serve (slot.getD (assignedClient request.clientIpv4 request.nowUs)) request.nowUs
    (ownDecisions slot (request :: rest)).countP (allowedWithin startUs lengthUs) ≤
      (ownDecisions (some served.2) rest).countP (allowedWithin startUs lengthUs) +
        served.1.toNat := by
  intro served
  change ((request, served.1) :: ownDecisions (some served.2) rest).countP _ ≤ _
  rw [List.countP_cons]
  refine Nat.add_le_add_left ?_ _
  cases served.1 with
  | false => exact le_rfl
  | true => split <;> decide

theorem serve_seen {client : NtpRateClient} {nowUs : Int} (sound : SlotSound nowUs client) :
    (serve client nowUs).2.lastSeenUs = nowUs := by
  rw [serve_eq sound]

theorem countP_within (startUs : Int) (lengthUs : Nat) {client : NtpRateClient} {seenUs : Int}
    {requests : List RateRequest} (sound : SlotSound seenUs client) (seen : client.lastSeenUs = seenUs)
    (timed : Chronological seenUs requests) :
    60000000 * (ownDecisions (some client) requests).countP (allowedWithin startUs lengthUs) ≤
      60000000 * client.tokens + residue client + 30 * (startUs + lengthUs - seenUs).toNat := by
  induction requests generalizing client seenUs with
  | nil =>
      rw [ownDecisions, List.countP_nil]
      exact Nat.zero_le _
  | cons request rest ih =>
      by_cases after : startUs + lengthUs < request.nowUs
      · have timed' : Chronological request.nowUs (request :: rest) := ⟨le_rfl, timed.2⟩
        rw [countP_after timed' after]
        exact Nat.zero_le _
      have early := timed.1
      have sound' := sound.later timed.1
      obtain ⟨-, -, credit⟩ := serve_credit sound'
      have rest_le := ih (serve_sound sound' timed.2.1) (serve_seen sound') timed.2.2
      have first_le := countP_cons_le startUs lengthUs (some client) request rest
      simp only [Option.getD_some] at first_le
      omega

theorem slot_sound_now {nowUs : Int} {slot : Option NtpRateClient} {request : RateRequest}
    (sound : ∀ client, slot = some client → SlotSound nowUs client) (later : nowUs ≤ request.nowUs)
    (positive : 0 < request.nowUs) :
    SlotSound request.nowUs (slot.getD (assignedClient request.clientIpv4 request.nowUs)) := by
  cases slot with
  | none => exact assignedClient_sound positive _
  | some client => exact (sound client rfl).later later

theorem countP_window (startUs : Int) (lengthUs : Nat) {nowUs : Int} {slot : Option NtpRateClient}
    {requests : List RateRequest} (sound : ∀ client, slot = some client → SlotSound nowUs client)
    (timed : Chronological nowUs requests) :
    (ownDecisions slot requests).countP (allowedWithin startUs lengthUs) ≤
      appNtpRateBurst + (lengthUs + 1999999) / 2000000 := by
  induction requests generalizing nowUs slot with
  | nil =>
      rw [ownDecisions, List.countP_nil]
      exact Nat.zero_le _
  | cons request rest ih =>
      by_cases after : startUs + lengthUs < request.nowUs
      · have timed' : Chronological request.nowUs (request :: rest) := ⟨le_rfl, timed.2⟩
        rw [countP_after timed' after]
        exact Nat.zero_le _
      have sound' := slot_sound_now sound timed.1 timed.2.1
      have first_le := countP_cons_le startUs lengthUs slot request rest
      have next := serve_sound sound' timed.2.1
      by_cases before : request.nowUs < startUs
      · rw [ownDecisions, List.countP_cons]
        rw [if_neg (by simp [allowedWithin, not_le.mpr before])]
        refine ih ?_ timed.2.2
        rintro _ ⟨⟩
        exact next
      · -- the first request inside the window finds at most a full bucket and less than a token's time
        obtain ⟨most, small, -⟩ := serve_credit sound'
        have rest_le := countP_within startUs lengthUs next (serve_seen sound') timed.2.2
        simp only [appNtpRateBurst] at most ⊢
        omega

structure RateBounded (clientIpv4 : Nat) (clients : List NtpRateClient)
    (period : List RateRequest) : Prop where
  tokens : ∀ count, ∀ client ∈ rateTableAfter clients (period.take count),
    client.tokens ≤ appNtpRateBurst
  window : ∀ startUs lengthUs,
    (ownEntries clientIpv4 (rateDecisions clients period)).countP (allowedWithin startUs lengthUs) ≤
      appNtpRateBurst + (lengthUs + 1999999) / 2000000
  alone : ownEntries clientIpv4 (rateDecisions clients period) =
    rateDecisions clients (ownRequests clientIpv4 period)

theorem Chronological.take {nowUs : Int} {requests : List RateRequest}
    (timed : Chronological nowUs requests) (count : Nat) : Chronological nowUs (requests.take count) := by
  induction requests generalizing nowUs count with
  | nil => simp [Chronological]
  | cons request rest ih =>
      cases count with
      | zero => trivial
      | succ count => exact ⟨timed.1, timed.2.1, ih timed.2.2 count⟩

/-- While an address keeps its slot, no window allows it more than a burst and a request for every
two seconds begun, and the other addresses do not matter to it. -/
theorem rate_limit_bounded {clientIpv4 : Nat} {past period : List RateRequest}
    (timed : Chronological 0 (past ++ period))
    (kept : KeepsSlot clientIpv4 (rateTableAfter ntpRateLimitInit past) period) :
    RateBounded clientIpv4 (rateTableAfter ntpRateLimitInit past) period := by
  obtain ⟨nowUs, table, timed'⟩ := timed_split rateTable_init timed
  refine ⟨fun count => ?_, fun startUs lengthUs => ?_, rateDecisions_alone table timed' kept⟩
  · obtain ⟨_, table'⟩ := rateTable_after table (timed'.take count)
    exact table'.tokens
  · rw [rateDecisions_own table timed' kept]
    exact countP_window startUs lengthUs (fun client held => (slotOf_sound table held).1)
      (timed'.filter _)

def burstyPeriod : List RateRequest :=
  List.replicate 10 ⟨1, 1000000⟩ ++ [⟨2, 1500000⟩, ⟨1, 4000000⟩, ⟨1, 5000000⟩]

theorem burstyPeriod_bounded :
    RateBounded 1 (rateTableAfter ntpRateLimitInit [⟨2, 500000⟩]) burstyPeriod :=
  rate_limit_bounded (by decide +kernel) (by decide +kernel)

/-! ## Conforming addresses -/

/-- The whole periods that each arrival is credited: those since the last arrival that was credited
any, which is where the count starts again. -/
def creditedPeriods : Int → List Int → List Nat
  | _, [] => []
  | baseUs, nowUs :: rest =>
      let periods := wholePeriods (nowUs - baseUs)
      periods :: creditedPeriods (if periods = 0 then baseUs else nowUs) rest

def creditedUpTo (times : List Int) (index : Nat) : Nat :=
  gained (creditedPeriods (times.headD 0) times) (index + 1)

def ConformsTo (earned : Nat → Nat → Int) (times : List Int) : Prop :=
  ∀ first last, first ≤ last → last < times.length →
    (last : Int) - first + 1 ≤ appNtpRateBurst + earned first last

instance (earned : Nat → Nat → Int) (times : List Int) : Decidable (ConformsTo earned times) :=
  decidable_of_iff (∀ last < times.length, ∀ first ≤ last,
      (last : Int) - first + 1 ≤ appNtpRateBurst + earned first last)
    ⟨fun conforms first last order inside => conforms last inside first order,
      fun conforms last inside first order => conforms first last order inside⟩

/-- The policy: a burst and one request for every two seconds. -/
def Conforms (times : List Int) : Prop :=
  ConformsTo (fun first last => (times.getD last 0 - times.getD first 0) / 2000000) times

/-- The policy with the periods counted as they are credited. -/
def ConformsAsCredited (times : List Int) : Prop :=
  ConformsTo (fun first last => creditedUpTo times last - creditedUpTo times first) times

def ownTimes (clientIpv4 : Nat) (requests : List RateRequest) : List Int :=
  (ownRequests clientIpv4 requests).map RateRequest.nowUs

def AllAllowed (clientIpv4 : Nat) (clients : List NtpRateClient) (requests : List RateRequest) :
    Prop :=
  ∀ entry ∈ ownEntries clientIpv4 (rateDecisions clients requests), entry.2 = true

@[simp] theorem creditedPeriods_length (baseUs : Int) (times : List Int) :
    (creditedPeriods baseUs times).length = times.length := by
  induction times generalizing baseUs with
  | nil => rfl
  | cons nowUs rest ih => rw [creditedPeriods, List.length_cons, ih, List.length_cons]

theorem ownDecisions_bucket {client : NtpRateClient} {nowUs : Int} {requests : List RateRequest}
    (sound : SlotSound nowUs client) (timed : Chronological nowUs requests) :
    (ownDecisions (some client) requests).map Prod.snd = bucketRun appNtpRateBurst client.tokens
      (creditedPeriods client.lastRefillUs (requests.map RateRequest.nowUs)) := by
  induction requests generalizing client nowUs with
  | nil => rfl
  | cons request rest ih =>
      have sound' := sound.later timed.1
      have rest_eq := ih (serve_sound sound' timed.2.1) timed.2.2
      rw [ownDecisions, List.map_cons, Option.getD_some, rest_eq, serve_eq sound']
      rfl

theorem withinCapacity_iff (baseUs : Int) (times : List Int) (rest : baseUs = times.headD 0) :
    WithinCapacity appNtpRateBurst (creditedPeriods baseUs times) ↔ ConformsAsCredited times := by
  subst rest
  simp only [WithinCapacity, ConformsAsCredited, ConformsTo, creditedPeriods_length, creditedUpTo]
  constructor
  · intro within first last order inside
    have := within first last order inside
    omega
  · intro conforms first last order inside
    have := conforms first last order inside
    omega

/-- An address that starts with a new slot is allowed all its requests exactly if they conform to
the policy with the periods counted as they are credited. -/
theorem own_requests_allowed_iff {clientIpv4 : Nat} {past period : List RateRequest}
    (timed : Chronological 0 (past ++ period))
    (fresh : slotOf (rateTableAfter ntpRateLimitInit past) clientIpv4 = none)
    (kept : KeepsSlot clientIpv4 (rateTableAfter ntpRateLimitInit past) period) :
    AllAllowed clientIpv4 (rateTableAfter ntpRateLimitInit past) period ↔
      ConformsAsCredited (ownTimes clientIpv4 period) := by
  obtain ⟨nowUs, table, timed'⟩ := timed_split rateTable_init timed
  have own : Chronological nowUs (ownRequests clientIpv4 period) := timed'.filter _
  rw [AllAllowed, rateDecisions_own table timed' kept, fresh, ownTimes]
  have answers (entries : List (RateRequest × Bool)) : (∀ entry ∈ entries, entry.2 = true) ↔
      ∀ allowed ∈ entries.map Prod.snd, allowed = true := by simp
  rw [answers]
  generalize ownRequests clientIpv4 period = requests at own ⊢
  cases requests with
  | nil => simp [ownDecisions, ConformsAsCredited, ConformsTo]
  | cons request rest =>
      have new := assignedClient_sound own.2.1 request.clientIpv4
      have timed'' : Chronological request.nowUs (request :: rest) := ⟨le_rfl, own.2⟩
      have first : ownDecisions none (request :: rest) =
          ownDecisions (some (assignedClient request.clientIpv4 request.nowUs)) (request :: rest) := rfl
      have nothing : wholePeriods (request.nowUs - request.nowUs) = 0 := by
        rw [Int.sub_self]
        rfl
      rw [first, ownDecisions_bucket new timed'', ← withinCapacity_iff request.nowUs _ rfl]
      change (∀ allowed ∈ bucketRun appNtpRateBurst appNtpRateBurst
        (creditedPeriods request.nowUs (request.nowUs :: rest.map RateRequest.nowUs)), _) ↔
          WithinCapacity _ (creditedPeriods request.nowUs (request.nowUs :: _))
      rw [creditedPeriods, nothing]
      exact bucketRun_full_iff

def irregularPeriod : List RateRequest :=
  List.replicate 8 ⟨1, 1000000⟩ ++ [⟨1, 4000000⟩, ⟨1, 5000000⟩]

theorem irregularPeriod_allowed_iff :
    AllAllowed 1 (rateTableAfter ntpRateLimitInit []) irregularPeriod ↔
      ConformsAsCredited (ownTimes 1 irregularPeriod) :=
  own_requests_allowed_iff (by decide +kernel) (by decide +kernel) (by decide +kernel)

/-- The second that the ninth request does not use is lost to the tenth. -/
theorem conforming_request_is_refused : ¬∀ (clientIpv4 : Nat) (past period : List RateRequest),
    Chronological 0 (past ++ period) → slotOf (rateTableAfter ntpRateLimitInit past) clientIpv4 = none →
    KeepsSlot clientIpv4 (rateTableAfter ntpRateLimitInit past) period →
    Conforms (ownTimes clientIpv4 period) →
    AllAllowed clientIpv4 (rateTableAfter ntpRateLimitInit past) period := by
  intro claim
  have conforms : Conforms (ownTimes 1 irregularPeriod) :=
    show ConformsTo _ _ by decide +kernel
  have allowed := claim 1 [] irregularPeriod (by decide +kernel) (by decide +kernel)
    (by decide +kernel) conforms (⟨1, 5000000⟩, false) (by decide +kernel)
  cases allowed

end NtsTimeServer.Proof
