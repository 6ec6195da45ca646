import NtsTimeServer.Model.RateLimit

namespace NtsTimeServer.Proof
open Model

def serve (client : NtpRateClient) (nowUs : Int) : Bool × NtpRateClient :=
  let client := { refillClient client nowUs with lastSeenUs := nowUs }
  if client.tokens > 0 then (true, { client with tokens := client.tokens - 1 }) else (false, client)

def wholePeriods (elapsedUs : Int) : Nat := u64 (elapsedUs.toNat * appNtpRatePerMinute) / 60000000

structure SlotSound (nowUs : Int) (client : NtpRateClient) : Prop where
  tokens : client.tokens ≤ appNtpRateBurst
  refilled : 0 < client.lastRefillUs
  seen : client.lastRefillUs ≤ client.lastSeenUs
  past : client.lastSeenUs ≤ nowUs

theorem SlotSound.later {nowUs later : Int} {client : NtpRateClient} (sound : SlotSound nowUs client)
    (le : nowUs ≤ later) : SlotSound later client :=
  ⟨sound.tokens, sound.refilled, sound.seen, sound.past.trans le⟩

theorem assignedClient_sound {nowUs : Int} (positive : 0 < nowUs) (clientIpv4 : Nat) :
    SlotSound nowUs (assignedClient clientIpv4 nowUs) := ⟨le_rfl, positive, le_rfl, le_rfl⟩

def credited (client : NtpRateClient) (periods : Nat) (nowUs : Int) : NtpRateClient :=
  { client with
    tokens := min (client.tokens + periods) appNtpRateBurst
    lastRefillUs := if periods = 0 then client.lastRefillUs else nowUs }

theorem credited_zero {client : NtpRateClient} (tokens : client.tokens ≤ appNtpRateBurst)
    (nowUs : Int) : credited client 0 nowUs = client := by
  rw [credited, Nat.add_zero, min_eq_left tokens, if_pos rfl]

theorem refillClient_eq {client : NtpRateClient} {nowUs : Int} (sound : SlotSound nowUs client) :
    refillClient client nowUs =
      credited client (wholePeriods (nowUs - client.lastRefillUs)) nowUs := by
  have refilled := sound.refilled
  unfold refillClient
  rw [if_neg (by omega)]
  dsimp only
  split
  · rename_i early
    have none : wholePeriods (nowUs - client.lastRefillUs) = 0 := by
      rw [wholePeriods, Int.toNat_of_nonpos early, Nat.zero_mul]
      rfl
    rw [none, credited_zero sound.tokens]
  change (if wholePeriods (nowUs - client.lastRefillUs) = 0 then _ else _) = _
  split
  · rename_i none
    rw [none, credited_zero sound.tokens]
  · rename_i some
    rw [credited, if_neg some]
    rfl

theorem serve_eq {client : NtpRateClient} {nowUs : Int} (sound : SlotSound nowUs client) :
    let filled := credited client (wholePeriods (nowUs - client.lastRefillUs)) nowUs
    serve client nowUs = (decide (0 < filled.tokens),
      { filled with tokens := filled.tokens - 1, lastSeenUs := nowUs }) := by
  intro filled
  unfold serve
  rw [refillClient_eq sound]
  change (if filled.tokens > 0 then _ else _) = _
  split
  · rename_i some
    rw [decide_eq_true some]
  · rename_i none
    have empty : filled.tokens = 0 := Nat.eq_zero_of_not_pos none
    rw [decide_eq_false none]
    change (false, { filled with lastSeenUs := nowUs }) =
      (false, { filled with tokens := filled.tokens - 1, lastSeenUs := nowUs })
    rw [empty]

theorem serve_sound {client : NtpRateClient} {nowUs : Int} (sound : SlotSound nowUs client)
    (positive : 0 < nowUs) : SlotSound nowUs (serve client nowUs).2 := by
  rw [serve_eq sound]
  refine ⟨(Nat.sub_le _ _).trans (min_le_right _ _), ?_, ?_, le_rfl⟩
  · change 0 < if _ then client.lastRefillUs else nowUs
    split
    · exact sound.refilled
    · exact positive
  · change (if _ then client.lastRefillUs else nowUs) ≤ nowUs
    split
    · exact sound.seen.trans sound.past
    · exact le_rfl

theorem refillClient_owner (client : NtpRateClient) (nowUs : Int) :
    (refillClient client nowUs).inUse = client.inUse ∧
      (refillClient client nowUs).clientIpv4 = client.clientIpv4 := by
  unfold refillClient
  split
  · simp
  · dsimp only
    split
    · simp
    · split <;> simp

theorem serve_owner (client : NtpRateClient) (nowUs : Int) :
    (serve client nowUs).2.inUse = client.inUse ∧
      (serve client nowUs).2.clientIpv4 = client.clientIpv4 := by
  obtain ⟨inUse, clientIpv4⟩ := refillClient_owner client nowUs
  unfold serve
  dsimp only
  split <;> simp [inUse, clientIpv4]

/-! ## The table -/

def Owns (clientIpv4 : Nat) (client : NtpRateClient) : Bool :=
  client.inUse && client.clientIpv4 == clientIpv4

theorem owns_iff {clientIpv4 : Nat} {client : NtpRateClient} :
    Owns clientIpv4 client = true ↔ client.inUse = true ∧ client.clientIpv4 = clientIpv4 := by
  simp [Owns]

def slotOf (clients : List NtpRateClient) (clientIpv4 : Nat) : Option NtpRateClient :=
  clients.find? (Owns clientIpv4)

structure RateTable (nowUs : Int) (clients : List NtpRateClient) : Prop where
  some : clients ≠ []
  usedFirst : clients.Pairwise fun first second => second.inUse = true → first.inUse = true
  distinct : clients.Pairwise fun first second =>
    first.inUse = true → second.inUse = true → first.clientIpv4 ≠ second.clientIpv4
  slots : ∀ client ∈ clients, client.inUse = true → SlotSound nowUs client
  tokens : ∀ client ∈ clients, client.tokens ≤ appNtpRateBurst

structure TableLayout (clients : List NtpRateClient) : Prop where
  some : clients ≠ []
  usedFirst : clients.Pairwise fun first second => second.inUse = true → first.inUse = true
  distinct : clients.Pairwise fun first second =>
    first.inUse = true → second.inUse = true → first.clientIpv4 ≠ second.clientIpv4

theorem RateTable.layout {nowUs : Int} {clients : List NtpRateClient} (table : RateTable nowUs clients) :
    TableLayout clients := ⟨table.some, table.usedFirst, table.distinct⟩

theorem rateTable_init : RateTable 0 ntpRateLimitInit where
  some := List.cons_ne_nil _ _
  usedFirst := List.pairwise_replicate.mpr (Or.inr id)
  distinct := List.pairwise_replicate.mpr (Or.inr nofun)
  slots client member used := by
    rw [List.eq_of_mem_replicate member] at used
    cases used
  tokens client member := by
    rw [List.eq_of_mem_replicate member]
    exact Nat.zero_le _

/-- Where a request of `clientIpv4` goes: to its slot, or to one that it takes over. -/
structure SlotChoice (clientIpv4 : Nat) (clients before : List NtpRateClient)
    (client : NtpRateClient) (after : List NtpRateClient) : Prop where
  split : clients = before ++ client :: after
  used : ∀ other ∈ before, other.inUse = true
  others : ∀ other ∈ before ++ after, Owns clientIpv4 other = false

section

variable {clientIpv4 : Nat} {clients before after : List NtpRateClient} {client new : NtpRateClient}

theorem SlotChoice.put (choice : SlotChoice clientIpv4 clients before client after)
    (new : NtpRateClient) : clients.set before.length new = before ++ new :: after := by
  rw [choice.split, List.set_append_right _ _ le_rfl, Nat.sub_self, List.set_cons_zero]

theorem SlotChoice.replaced {property : NtpRateClient → Prop}
    (choice : SlotChoice clientIpv4 clients before client after)
    (all : ∀ other ∈ clients, property other) (own : property new) :
    ∀ other ∈ before ++ new :: after, property other := by
  rw [choice.split, List.forall_mem_append, List.forall_mem_cons] at all
  rw [List.forall_mem_append, List.forall_mem_cons]
  exact ⟨all.1, own, all.2.2⟩

theorem SlotChoice.pairwise {related : NtpRateClient → NtpRateClient → Prop}
    (choice : SlotChoice clientIpv4 clients before client after) (pairs : clients.Pairwise related)
    (first : ∀ other ∈ before, related other new) (second : ∀ other ∈ after, related new other) :
    (before ++ new :: after).Pairwise related := by
  rw [choice.split, List.pairwise_append, List.pairwise_cons] at pairs
  obtain ⟨pairsBefore, ⟨-, pairsAfter⟩, across⟩ := pairs
  refine List.pairwise_append.mpr ⟨pairsBefore, List.pairwise_cons.mpr ⟨second, pairsAfter⟩, ?_⟩
  intro other member
  exact List.forall_mem_cons.mpr
    ⟨first other member, fun later found => across other member later (List.mem_cons_of_mem _ found)⟩

end

theorem not_owns {clientIpv4 : Nat} {client : NtpRateClient}
    (foreign : client.inUse = true → client.clientIpv4 ≠ clientIpv4) :
    Owns clientIpv4 client = false := by
  rw [← Bool.not_eq_true, owns_iff]
  exact fun ⟨used, same⟩ => foreign used same

def Assignable (clients : List NtpRateClient) (client : NtpRateClient) : Prop :=
  client.inUse = false ∨
    ∀ other ∈ clients, other.inUse = true ∧ client.lastSeenUs ≤ other.lastSeenUs

theorem scanClients_choice {clientIpv4 : Nat} (seen rest : List NtpRateClient) (oldest : Nat)
    (oldestSeenUs : Int)
    (usedFirst : (seen ++ rest).Pairwise fun first second =>
      second.inUse = true → first.inUse = true)
    (distinct : (seen ++ rest).Pairwise fun first second =>
      first.inUse = true → second.inUse = true → first.clientIpv4 ≠ second.clientIpv4)
    (used : ∀ other ∈ seen, other.inUse = true)
    (others : ∀ other ∈ seen, Owns clientIpv4 other = false)
    (best : ((seen ++ rest)[oldest]?).map (·.lastSeenUs) = some oldestSeenUs)
    (least : ∀ other ∈ seen, oldestSeenUs ≤ other.lastSeenUs) :
    ∃ before client after, SlotChoice clientIpv4 (seen ++ rest) before client after ∧
      (scanClients clientIpv4 rest seen.length oldest oldestSeenUs = .found before.length ∧
          Owns clientIpv4 client = true ∨
        scanClients clientIpv4 rest seen.length oldest oldestSeenUs = .assign before.length ∧
          Owns clientIpv4 client = false ∧ Assignable (seen ++ rest) client) := by
  induction rest generalizing seen oldest oldestSeenUs with
  | nil =>
      rw [List.append_nil] at best ⊢
      obtain ⟨candidate, held, same⟩ := Option.map_eq_some_iff.mp best
      obtain ⟨inside, rfl⟩ := List.getElem?_eq_some_iff.mp held
      refine ⟨seen.take oldest, seen[oldest], seen.drop (oldest + 1), ⟨?_, ?_, ?_⟩,
        Or.inr ⟨?_, ?_, Or.inr fun other member => ⟨used other member, ?_⟩⟩⟩
      · rw [← List.drop_eq_getElem_cons inside, List.take_append_drop]
      · exact fun other member => used other (List.mem_of_mem_take member)
      · exact List.forall_mem_append.mpr ⟨fun other member => others other (List.mem_of_mem_take member),
          fun other member => others other (List.mem_of_mem_drop member)⟩
      · rw [scanClients, List.length_take, min_eq_left inside.le]
      · exact others _ (List.getElem_mem inside)
      · rw [same]
        exact least other member
  | cons candidate rest ih =>
      have choice (own : ∀ other ∈ rest, Owns clientIpv4 other = false) :
          SlotChoice clientIpv4 (seen ++ candidate :: rest) seen candidate rest :=
        ⟨rfl, used, List.forall_mem_append.mpr ⟨others, own⟩⟩
      rw [scanClients]
      split
      · rename_i own
        refine ⟨seen, candidate, rest, choice fun other member => ?_, Or.inl ⟨rfl, owns_iff.mpr own⟩⟩
        have differ := List.rel_of_pairwise_cons (List.pairwise_append.mp distinct).2.1 member own.1
        rw [own.2] at differ
        exact not_owns fun inUse => (differ inUse).symm
      rename_i foreign
      have notOwn : Owns clientIpv4 candidate = false := not_owns fun used same => foreign ⟨used, same⟩
      split
      · rename_i free
        refine ⟨seen, candidate, rest, choice fun other member => ?_,
          Or.inr ⟨rfl, notOwn, Or.inl (Bool.not_eq_true _ ▸ free)⟩⟩
        have before := List.rel_of_pairwise_cons (List.pairwise_append.mp usedFirst).2.1 member
        exact not_owns fun inUse => absurd (before inUse) free
      rename_i taken
      have used' : ∀ other ∈ seen ++ [candidate], other.inUse = true :=
        List.forall_mem_append.mpr ⟨used, List.forall_mem_singleton.mpr (not_not.mp taken)⟩
      have others' : ∀ other ∈ seen ++ [candidate], Owns clientIpv4 other = false :=
        List.forall_mem_append.mpr ⟨others, List.forall_mem_singleton.mpr notOwn⟩
      have here : ((seen ++ candidate :: rest)[seen.length]?).map (·.lastSeenUs) =
          some candidate.lastSeenUs := by
        simp
      rw [List.append_cons] at usedFirst distinct best here ⊢
      have next : seen.length + 1 = (seen ++ [candidate]).length := by
        rw [List.length_append, List.length_singleton]
      rw [next]
      split
      next older =>
        refine ih _ _ _ usedFirst distinct used' others' here ?_
        refine List.forall_mem_append.mpr ⟨fun other member => ?_, List.forall_mem_singleton.mpr le_rfl⟩
        exact older.le.trans (least other member)
      next younger =>
        refine ih _ _ _ usedFirst distinct used' others' best ?_
        exact List.forall_mem_append.mpr ⟨least, List.forall_mem_singleton.mpr (not_lt.mp younger)⟩

theorem slotOf_none {clients : List NtpRateClient} {clientIpv4 : Nat}
    (others : ∀ other ∈ clients, Owns clientIpv4 other = false) : slotOf clients clientIpv4 = none :=
  List.find?_eq_none.mpr fun other member => by simp [others other member]

theorem slotOf_split {before after : List NtpRateClient} {clientIpv4 : Nat}
    (others : ∀ other ∈ before ++ after, Owns clientIpv4 other = false) (client : NtpRateClient) :
    slotOf (before ++ client :: after) clientIpv4 =
      if Owns clientIpv4 client = true then some client else none := by
  have first := slotOf_none fun other member => others other (List.mem_append_left _ member)
  have second := slotOf_none fun other member => others other (List.mem_append_right _ member)
  rw [slotOf] at first second ⊢
  rw [List.find?_append, first, List.find?_cons, second, Option.none_or]
  cases Owns clientIpv4 client <;> rfl

theorem slotOf_sound {nowUs : Int} {clients : List NtpRateClient} (table : RateTable nowUs clients)
    {clientIpv4 : Nat} {client : NtpRateClient} (held : slotOf clients clientIpv4 = some client) :
    SlotSound nowUs client ∧ client.inUse = true ∧ client.clientIpv4 = clientIpv4 := by
  have owned := owns_iff.mp (List.find?_some held)
  exact ⟨table.slots client (List.mem_of_find?_eq_some held) owned.1, owned⟩

def answering (clients : List NtpRateClient) (request : RateRequest) : NtpRateClient :=
  (slotOf clients request.clientIpv4).getD (assignedClient request.clientIpv4 request.nowUs)

theorem answering_owner (clients : List NtpRateClient) (request : RateRequest) :
    (answering clients request).inUse = true ∧
      (answering clients request).clientIpv4 = request.clientIpv4 := by
  unfold answering
  cases held : slotOf clients request.clientIpv4 with
  | none => simp [assignedClient]
  | some client => exact owns_iff.mp (List.find?_some held)

theorem served_owner (clients : List NtpRateClient) (request : RateRequest) :
    (serve (answering clients request) request.nowUs).2.inUse = true ∧
      (serve (answering clients request) request.nowUs).2.clientIpv4 = request.clientIpv4 := by
  obtain ⟨inUse, clientIpv4⟩ := answering_owner clients request
  obtain ⟨inUse', clientIpv4'⟩ := serve_owner (answering clients request) request.nowUs
  exact ⟨inUse'.trans inUse, clientIpv4'.trans clientIpv4⟩

theorem answering_sound {nowUs : Int} {clients : List NtpRateClient} (table : RateTable nowUs clients)
    {request : RateRequest} (later : nowUs ≤ request.nowUs) (positive : 0 < request.nowUs) :
    SlotSound request.nowUs (answering clients request) := by
  unfold answering
  cases held : slotOf clients request.clientIpv4 with
  | none => exact assignedClient_sound positive _
  | some client => exact (slotOf_sound table held).1.later later

theorem findOrAllocateClient_eq {clients : List NtpRateClient} (layout : TableLayout clients)
    (request : RateRequest) :
    ∃ before client after, SlotChoice request.clientIpv4 clients before client after ∧
      (slotOf clients request.clientIpv4 = none → Assignable clients client) ∧
      findOrAllocateClient clients request.clientIpv4 request.nowUs =
        (before.length, answering clients request) := by
  let first := clients.getD 0 (assignedClient request.clientIpv4 request.nowUs)
  have best : (clients[0]?).map (·.lastSeenUs) = some first.lastSeenUs := by
    simp [first, List.getElem?_eq_getElem (List.length_pos_of_ne_nil layout.some)]
  obtain ⟨before, client, after, choice, found⟩ := scanClients_choice [] clients 0 first.lastSeenUs
    layout.usedFirst layout.distinct nofun nofun best nofun
  rw [List.nil_append] at choice
  change scanClients request.clientIpv4 clients 0 0 first.lastSeenUs = _ ∧ _ ∨
    scanClients request.clientIpv4 clients 0 0 first.lastSeenUs = _ ∧ _ at found
  have slot := slotOf_split choice.others client
  rw [← choice.split] at slot
  refine ⟨before, client, after, choice, ?_⟩
  rw [findOrAllocateClient, answering, slot]
  rcases found with ⟨found, owned⟩ | ⟨assigned, foreign, assignable⟩
  · rw [if_pos owned]
    simp only [first] at found
    simp only [found, Option.getD_some]
    refine ⟨fun absent => absurd absent (Option.some_ne_none _), ?_⟩
    rw [choice.split, List.getD_eq_getElem?_getD, List.getElem?_append_right le_rfl, Nat.sub_self,
      List.getElem?_cons_zero, Option.getD_some]
  · rw [if_neg (by simp [foreign])]
    simp only [first] at assigned
    simp only [assigned, Option.getD_none]
    exact ⟨fun _ => assignable, trivial⟩

/-- A request is answered by its slot, whose successor takes the place of one slot of the table. -/
theorem ntpRateLimitAllow_eq {clients : List NtpRateClient} (layout : TableLayout clients)
    (request : RateRequest) :
    let served := serve (answering clients request) request.nowUs
    ∃ before client after, SlotChoice request.clientIpv4 clients before client after ∧
      (slotOf clients request.clientIpv4 = none → Assignable clients client) ∧
      ntpRateLimitAllow clients request.clientIpv4 request.nowUs =
        (served.1, !served.1, before ++ served.2 :: after) := by
  intro served
  obtain ⟨before, client, after, choice, assignable, found⟩ := findOrAllocateClient_eq layout request
  refine ⟨before, client, after, choice, assignable, ?_⟩
  rw [ntpRateLimitAllow, found]
  dsimp only
  rw [choice.put, choice.put]
  simp only [served, serve]
  split <;> rfl

theorem tableLayout_allow {clients : List NtpRateClient} (layout : TableLayout clients)
    (request : RateRequest) :
    TableLayout (ntpRateLimitAllow clients request.clientIpv4 request.nowUs).2.2 := by
  obtain ⟨before, client, after, choice, -, allowed⟩ := ntpRateLimitAllow_eq layout request
  have owned := served_owner clients request
  rw [allowed]
  generalize (serve (answering clients request) request.nowUs).2 = new at owned
  have foreign : ∀ other ∈ before ++ after, other.inUse = true →
      other.clientIpv4 ≠ new.clientIpv4 := by
    intro other member used same
    have held := owns_iff.mpr ⟨used, same.trans owned.2⟩
    rw [choice.others other member] at held
    cases held
  obtain ⟨foreignBefore, foreignAfter⟩ := List.forall_mem_append.mp foreign
  refine ⟨by simp, ?_, ?_⟩
  · exact choice.pairwise layout.usedFirst (fun other member _ => choice.used other member)
      fun _ _ _ => owned.1
  · exact choice.pairwise layout.distinct (fun other member used _ => foreignBefore other member used)
      fun other member _ used => (foreignAfter other member used).symm

theorem rateTable_allow {nowUs : Int} {clients : List NtpRateClient} (table : RateTable nowUs clients)
    {request : RateRequest} (later : nowUs ≤ request.nowUs) (positive : 0 < request.nowUs) :
    RateTable request.nowUs
      (ntpRateLimitAllow clients request.clientIpv4 request.nowUs).2.2 := by
  obtain ⟨some, usedFirst, distinct⟩ := tableLayout_allow table.layout request
  obtain ⟨before, client, after, choice, -, allowed⟩ := ntpRateLimitAllow_eq table.layout request
  have served := serve_sound (answering_sound table later positive) positive
  refine ⟨some, usedFirst, distinct, ?_, ?_⟩
  · rw [allowed]
    exact choice.replaced (fun other member used => (table.slots other member used).later later)
      fun _ => served
  · rw [allowed]
    exact choice.replaced table.tokens served.tokens

theorem slotOf_own {clients : List NtpRateClient} (layout : TableLayout clients)
    (request : RateRequest) :
    (ntpRateLimitAllow clients request.clientIpv4 request.nowUs).1 =
        (serve (answering clients request) request.nowUs).1 ∧
      slotOf (ntpRateLimitAllow clients request.clientIpv4 request.nowUs).2.2 request.clientIpv4 =
        some (serve (answering clients request) request.nowUs).2 := by
  obtain ⟨before, client, after, choice, -, allowed⟩ := ntpRateLimitAllow_eq layout request
  rw [allowed, slotOf_split choice.others, if_pos (owns_iff.mpr (served_owner clients request))]
  exact ⟨rfl, rfl⟩

theorem slotOf_other {clients : List NtpRateClient} (layout : TableLayout clients)
    {request : RateRequest} {clientIpv4 : Nat} (other : request.clientIpv4 ≠ clientIpv4) :
    slotOf (ntpRateLimitAllow clients request.clientIpv4 request.nowUs).2.2 clientIpv4 =
        slotOf clients clientIpv4 ∨
      slotOf (ntpRateLimitAllow clients request.clientIpv4 request.nowUs).2.2 clientIpv4 = none := by
  obtain ⟨before, client, after, choice, -, allowed⟩ := ntpRateLimitAllow_eq layout request
  have owned := served_owner clients request
  rw [allowed]
  generalize (serve (answering clients request) request.nowUs).2 = new at owned
  have foreign : Owns clientIpv4 new = false := by
    rw [Owns, owned.2]
    simp [other]
  by_cases robbed : Owns clientIpv4 client = true
  · refine Or.inr ?_
    obtain ⟨used, same⟩ := owns_iff.mp robbed
    have distinct := layout.distinct
    rw [choice.split] at distinct
    obtain ⟨-, distinctAfter, distinctAcross⟩ := List.pairwise_append.mp distinct
    have others : ∀ other ∈ before ++ after, Owns clientIpv4 other = false := by
      refine List.forall_mem_append.mpr ⟨fun other member => not_owns fun used' => ?_,
        fun other member => not_owns fun used' => ?_⟩
      · rw [← same]
        exact distinctAcross other member client List.mem_cons_self used' used
      · rw [← same]
        exact (List.rel_of_pairwise_cons distinctAfter member used used').symm
    rw [slotOf_split others, if_neg (by simp [foreign])]
  · refine Or.inl ?_
    rw [choice.split]
    simp only [slotOf, List.find?_append, List.find?_cons, foreign, Bool.not_eq_true] at robbed ⊢
    rw [robbed]

end NtsTimeServer.Proof
