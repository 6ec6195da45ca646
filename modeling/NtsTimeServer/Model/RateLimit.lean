import NtsTimeServer.Model.Types

/-!
# The rate limiter

`ntp_rate_limit.c`: a bucket of tokens for each of 32 client addresses. Times are readings of
`esp_timer_get_time`, in microseconds.
-/

namespace NtsTimeServer.Model

def appNtpMaxClients : Nat := 32
def appNtpRateBurst : Nat := 8
def appNtpRatePerMinute : Nat := 30

structure NtpRateClient where
  inUse : Bool
  clientIpv4 : Nat
  tokens : Nat
  lastRefillUs : Int
  lastSeenUs : Int
  deriving DecidableEq, Repr

def ntpRateLimitInit : List NtpRateClient := List.replicate appNtpMaxClients ⟨false, 0, 0, 0, 0⟩

def refillClient (client : NtpRateClient) (nowUs : Int) : NtpRateClient :=
  if client.lastRefillUs = 0 then
    { client with lastRefillUs := nowUs, tokens := appNtpRateBurst }
  else
    let elapsedUs := nowUs - client.lastRefillUs
    if elapsedUs ≤ 0 then client
    else
      let tokensToAdd := u64 (elapsedUs.toNat * appNtpRatePerMinute) / 60000000
      if tokensToAdd = 0 then client
      else { client with
        tokens := min (client.tokens + tokensToAdd) appNtpRateBurst
        lastRefillUs := nowUs }

inductive ClientSlot
  | found (index : Nat)
  | assign (index : Nat)
  deriving DecidableEq, Repr

/-- The loop of `find_or_allocate_client` over the slots from `index` on. -/
def scanClients (clientIpv4 : Nat) : List NtpRateClient → Nat → Nat → Int → ClientSlot
  | [], _, oldest, _ => .assign oldest
  | candidate :: rest, index, oldest, oldestSeenUs =>
      if candidate.inUse ∧ candidate.clientIpv4 = clientIpv4 then .found index
      else if ¬candidate.inUse then .assign index
      else if candidate.lastSeenUs < oldestSeenUs then
        scanClients clientIpv4 rest (index + 1) index candidate.lastSeenUs
      else scanClients clientIpv4 rest (index + 1) oldest oldestSeenUs

def assignedClient (clientIpv4 : Nat) (nowUs : Int) : NtpRateClient :=
  ⟨true, clientIpv4, appNtpRateBurst, nowUs, nowUs⟩

/-- The index of the slot, and the slot with what an assignment writes. -/
def findOrAllocateClient (clients : List NtpRateClient) (clientIpv4 : Nat) (nowUs : Int) :
    Nat × NtpRateClient :=
  let first := clients.getD 0 (assignedClient clientIpv4 nowUs)
  match scanClients clientIpv4 clients 0 0 first.lastSeenUs with
  | .found index => (index, clients.getD index first)
  | .assign index => (index, assignedClient clientIpv4 nowUs)

/-- Whether the request is allowed, `*out_send_kod` and the table. -/
def ntpRateLimitAllow (clients : List NtpRateClient) (clientIpv4 : Nat) (nowUs : Int) :
    Bool × Bool × List NtpRateClient :=
  let (index, client) := findOrAllocateClient clients clientIpv4 nowUs
  let client := { refillClient client nowUs with lastSeenUs := nowUs }
  if client.tokens > 0 then
    (true, false, clients.set index { client with tokens := client.tokens - 1 })
  else (false, true, clients.set index client)

/-! ## Requests one after the other -/

structure RateRequest where
  clientIpv4 : Nat
  nowUs : Int
  deriving DecidableEq, Repr

def rateTableAfter : List NtpRateClient → List RateRequest → List NtpRateClient
  | clients, [] => clients
  | clients, request :: rest =>
      rateTableAfter (ntpRateLimitAllow clients request.clientIpv4 request.nowUs).2.2 rest

/-- The requests with what `ntp_rate_limit_allow` returns for them. -/
def rateDecisions : List NtpRateClient → List RateRequest → List (RateRequest × Bool)
  | _, [] => []
  | clients, request :: rest =>
      let (allowed, _, clients) := ntpRateLimitAllow clients request.clientIpv4 request.nowUs
      (request, allowed) :: rateDecisions clients rest

end NtsTimeServer.Model
