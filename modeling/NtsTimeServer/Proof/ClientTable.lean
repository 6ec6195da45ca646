import NtsTimeServer.Proof.RateLimit

namespace NtsTimeServer.Proof
open Model

def AnsweredAt (clients : List NtpRateClient) (request : RateRequest) (index : Nat)
    (client : NtpRateClient) : Prop :=
  let served := serve client request.nowUs
  ntpRateLimitAllow clients request.clientIpv4 request.nowUs =
    (served.1, !served.1, clients.set index served.2)

structure CallOnTable (clients : List NtpRateClient) (request : RateRequest) : Prop where
  found : ∀ index client, clients[index]? = some client →
    Owns request.clientIpv4 client = true → AnsweredAt clients request index client
  assigned : (∀ client ∈ clients, Owns request.clientIpv4 client = false) →
    ∃ index client, clients[index]? = some client ∧ Assignable clients client ∧
      AnsweredAt clients request index (assignedClient request.clientIpv4 request.nowUs)

theorem owned_split {clientIpv4 : Nat} {clients before after : List NtpRateClient}
    {client held : NtpRateClient} {index : Nat}
    (choice : SlotChoice clientIpv4 clients before client after)
    (at_ : clients[index]? = some held) (own : Owns clientIpv4 held = true) :
    index = before.length ∧ held = client := by
  rw [choice.split] at at_
  rcases lt_trichotomy index before.length with first | same | last
  · rw [List.getElem?_append_left first] at at_
    have foreign := choice.others held (List.mem_append_left _ (List.mem_of_getElem? at_))
    rw [foreign] at own
    cases own
  · subst same
    rw [List.getElem?_append_right le_rfl, Nat.sub_self, List.getElem?_cons_zero] at at_
    exact ⟨rfl, (Option.some.inj at_).symm⟩
  · obtain ⟨further, rfl⟩ := Nat.exists_eq_add_of_lt last
    rw [List.getElem?_append_right (by omega), show before.length + further + 1 - before.length =
      further + 1 by omega, List.getElem?_cons_succ] at at_
    have foreign := choice.others held (List.mem_append_right _ (List.mem_of_getElem? at_))
    rw [foreign] at own
    cases own

theorem call_on_table {clients : List NtpRateClient} (layout : TableLayout clients)
    (request : RateRequest) : CallOnTable clients request := by
  obtain ⟨before, client, after, choice, assignable, allowed⟩ := ntpRateLimitAllow_eq layout request
  rw [← choice.put] at allowed
  constructor
  · intro index held at_ own
    obtain ⟨rfl, rfl⟩ := owned_split choice at_ own
    have answering : answering clients request = held := by
      rw [answering, choice.split, slotOf_split choice.others, if_pos own, Option.getD_some]
    rw [answering] at allowed
    exact allowed
  · intro others
    have absent := slotOf_none others
    refine ⟨before.length, client, ?_, assignable absent, ?_⟩
    · rw [choice.split, List.getElem?_append_right le_rfl, Nat.sub_self, List.getElem?_cons_zero]
    · have answering : answering clients request =
          assignedClient request.clientIpv4 request.nowUs := by
        rw [answering, absent, Option.getD_none]
      rw [answering] at allowed
      exact allowed

/-! ## Runs -/

def lastSeenUs (past : List RateRequest) (clientIpv4 : Nat) : Option Int :=
  ((ownRequests clientIpv4 past).getLast?).map (·.nowUs)

theorem lastSeenUs_own (past : List RateRequest) (request : RateRequest) :
    lastSeenUs (past ++ [request]) request.clientIpv4 = some request.nowUs := by
  simp [lastSeenUs, ownRequests, fromAddress]

theorem lastSeenUs_other {past : List RateRequest} {request : RateRequest} {clientIpv4 : Nat}
    (other : request.clientIpv4 ≠ clientIpv4) :
    lastSeenUs (past ++ [request]) clientIpv4 = lastSeenUs past clientIpv4 := by
  simp [lastSeenUs, ownRequests, fromAddress, other]

structure ClientTable (past : List RateRequest) (clients : List NtpRateClient) : Prop where
  slots : clients.length = appNtpMaxClients
  layout : TableLayout clients
  seen : ∀ client ∈ clients, client.inUse = true →
    lastSeenUs past client.clientIpv4 = some client.lastSeenUs

theorem clientTable_init : ClientTable [] ntpRateLimitInit where
  slots := List.length_replicate
  layout := rateTable_init.layout
  seen client member used := by
    rw [List.eq_of_mem_replicate member] at used
    cases used

theorem serve_lastSeenUs (client : NtpRateClient) (nowUs : Int) :
    (serve client nowUs).2.lastSeenUs = nowUs := by
  unfold serve
  dsimp only
  split <;> simp

theorem clientTable_allow {past : List RateRequest} {clients : List NtpRateClient}
    (table : ClientTable past clients) (request : RateRequest) :
    ClientTable (past ++ [request])
      (ntpRateLimitAllow clients request.clientIpv4 request.nowUs).2.2 := by
  refine ⟨?_, tableLayout_allow table.layout request, ?_⟩
  all_goals
    obtain ⟨before, client, after, choice, -, allowed⟩ := ntpRateLimitAllow_eq table.layout request
    rw [allowed]
  · have slots := table.slots
    rw [choice.split] at slots
    simpa using slots
  · obtain ⟨inUse, owner⟩ := served_owner clients request
    intro other member used
    by_cases own : request.clientIpv4 = other.clientIpv4
    · rcases List.mem_append.mp member with member | member
      · have foreign := choice.others other (List.mem_append_left _ member)
        rw [owns_iff.mpr ⟨used, own.symm⟩] at foreign
        cases foreign
      rcases List.mem_cons.mp member with rfl | member
      · rw [owner, lastSeenUs_own, serve_lastSeenUs]
      · have foreign := choice.others other (List.mem_append_right _ member)
        rw [owns_iff.mpr ⟨used, own.symm⟩] at foreign
        cases foreign
    · rw [lastSeenUs_other own]
      apply table.seen other _ used
      rw [choice.split]
      rcases List.mem_append.mp member with member | member
      · exact List.mem_append_left _ member
      rcases List.mem_cons.mp member with rfl | member
      · exact absurd owner.symm own
      · exact List.mem_append_right _ (List.mem_cons_of_mem _ member)

theorem clientTable_after {past : List RateRequest} {clients : List NtpRateClient}
    (table : ClientTable past clients) (requests : List RateRequest) :
    ClientTable (past ++ requests) (rateTableAfter clients requests) := by
  induction requests generalizing past clients with
  | nil =>
      rw [List.append_nil]
      exact table
  | cons request rest ih =>
      rw [List.append_cons]
      exact ih (clientTable_allow table request)

def bucketAfter (client : NtpRateClient) : List RateRequest → NtpRateClient
  | [] => client
  | request :: rest =>
      if Owns request.clientIpv4 client then bucketAfter (serve client request.nowUs).2 rest
      else bucketAfter client rest

def HeldThroughout (clientIpv4 index : Nat) (clients : List NtpRateClient)
    (requests : List RateRequest) : Prop :=
  ∀ count, ∃ holder, (rateTableAfter clients (requests.take count))[index]? = some holder ∧
    Owns clientIpv4 holder = true

theorem HeldThroughout.step {clientIpv4 index : Nat} {clients : List NtpRateClient}
    {request : RateRequest} {rest : List RateRequest}
    (held : HeldThroughout clientIpv4 index clients (request :: rest)) :
    HeldThroughout clientIpv4 index
      (ntpRateLimitAllow clients request.clientIpv4 request.nowUs).2.2 rest :=
  fun count => held (count + 1)

theorem bucket_kept {clients : List NtpRateClient} (layout : TableLayout clients)
    {index : Nat} {client : NtpRateClient} (at_ : clients[index]? = some client)
    (used : client.inUse = true) {requests : List RateRequest}
    (held : HeldThroughout client.clientIpv4 index clients requests) :
    (rateTableAfter clients requests)[index]? = some (bucketAfter client requests) := by
  induction requests generalizing clients client with
  | nil => exact at_
  | cons request rest ih =>
      have call := call_on_table layout request
      have layout' := tableLayout_allow layout request
      obtain ⟨inside, -⟩ := List.getElem?_eq_some_iff.mp at_
      rw [rateTableAfter, bucketAfter]
      split
      next own =>
        have answered := call.found index client at_ own
        have at' : (ntpRateLimitAllow clients request.clientIpv4 request.nowUs).2.2[index]? =
            some (serve client request.nowUs).2 := by
          rw [answered, List.getElem?_set_self inside]
        obtain ⟨inUse, clientIpv4⟩ := serve_owner client request.nowUs
        apply ih layout' at' (inUse.trans used)
        rw [clientIpv4]
        exact held.step
      next foreign =>
        apply ih layout' _ used held.step
        obtain ⟨before, other, after, choice, -, allowed⟩ := ntpRateLimitAllow_eq layout request
        obtain ⟨holder, at', holds⟩ := held 1
        obtain ⟨-, owner⟩ := served_owner clients request
        have elsewhere : before.length ≠ index := by
          rintro rfl
          change (ntpRateLimitAllow clients request.clientIpv4 request.nowUs).2.2[_]? = _ at at'
          rw [allowed, List.getElem?_append_right le_rfl, Nat.sub_self, List.getElem?_cons_zero] at at'
          obtain rfl := Option.some.inj at'
          rw [(owns_iff.mp holds).2] at owner
          exact foreign (owns_iff.mpr ⟨used, owner⟩)
        rw [allowed, ← choice.put, List.getElem?_set_ne elsewhere, at_]

theorem client_table_integrity (past : List RateRequest) :
    let clients := rateTableAfter ntpRateLimitInit past
    ClientTable past clients ∧ (∀ request, CallOnTable clients request) ∧
      ∀ index client requests, clients[index]? = some client → client.inUse = true →
        HeldThroughout client.clientIpv4 index clients requests →
        (rateTableAfter clients requests)[index]? = some (bucketAfter client requests) := by
  intro clients
  have table : ClientTable past clients := clientTable_after clientTable_init past
  exact ⟨table, call_on_table table.layout, fun _ _ _ at_ used held =>
    bucket_kept table.layout at_ used held⟩

end NtsTimeServer.Proof
