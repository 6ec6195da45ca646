import NtsTimeServer.Proof.AesSiv
import NtsTimeServer.Proof.CookieRetention

namespace NtsTimeServer.Proof
open Model Lib

section

variable {ι : Type} {aead : Aead}

/-- From here on `nts_cookie_unpack` of the cookie succeeds until the cookie expires: the
maintenance of a ring that a task has loaded does, and so does what follows it. -/
structure Unpacks (aead : Aead) (s : CookieSystem ι) (cookie : Bytes) (keys : CookieKeys) : Prop where
  length : cookie.length = ntsCookieLen
  maintains : ∀ task call keyring, s.tasks task = .loaded call keyring →
    ∀ now random, s.nowNtp ≤ now → now < 2 ^ 32 →
      ∃ result, maintainLoaded keyring (some now) random = .ok result
  unpacks : ∀ now, s.nowNtp ≤ now → now < keys.expiresNtpSeconds →
    ∃ masterKeyId, s.unpack aead cookie now = .ok { keys with masterKeyId := masterKeyId }

theorem Sound.unpacks (roundTrip : aead.RoundTrip) {s : CookieSystem ι} (sound : Sound aead s)
    {cookie : Bytes} {keys : CookieKeys} (created : (cookie, keys) ∈ s.created) :
    Unpacks aead s cookie keys := by
  have kept := sound.created _ created
  refine ⟨kept.length, fun task call keyring loaded now random _ era => ?_, fun now le before => ?_⟩
  · obtain ⟨-, regular, -⟩ : TaskSound s.nowNtp s.store (.loaded call keyring) :=
      loaded ▸ sound.tasks task
    obtain ⟨changed, after, maintained, -⟩ := maintainLoaded_regular regular era random
    exact ⟨_, maintained⟩
  · rcases kept.serves with expired | ⟨stored, mem, slot, nonce, serves, sealed, -⟩
    · dsimp only at expired
      omega
    · have loaded : loadCookieKeyring s.store false = .ok stored := by
        rw [Option.mem_def.mp mem]
        rfl
      refine ⟨slot.keyId, ?_⟩
      rw [CookieSystem.unpack, loaded]
      exact unpackLoaded_sealCookie roundTrip (sound.regular stored mem) serves
        (kept.promised.fits sound.era) sealed (kept.promised.issued.trans le) before

variable [DecidableEq ι]

theorem run_sound {past : List (CookieEvent ι)} {s : CookieSystem ι}
    (run : Run (cookieStep aead) SavesKeep cookieStart past s) : Sound aead s :=
  run.invariant (fun _ s => Sound aead s) cookieStart_sound
    fun _ _ _ _ sound met taken => cookieStep_sound sound met taken

/-- Where no save drops a key that may still protect a cookie, no cookie is lost. -/
theorem created_cookies_unpack (roundTrip : aead.RoundTrip) {past : List (CookieEvent ι)}
    {s : CookieSystem ι} (run : Run (cookieStep aead) SavesKeep cookieStart past s)
    {cookie : Bytes} {keys : CookieKeys} (created : (cookie, keys) ∈ s.created) :
    Unpacks aead s cookie keys := (run_sound run).unpacks roundTrip created

end

/-! ## Two tasks that rotate the ring at the same time -/

inductive ServerTask
  | ntpServer
  | ntsKe
  deriving DecidableEq

def lateKeys : CookieKeys := ⟨fixedKey, fixedKey, 3, 7776999, 7863399⟩

def orderlyEvents : List (CookieEvent ServerTask) :=
  [.ensure false (some 1000) (randomBytes 1) .saved, .wait 7776999,
    .call .ntsKe (.create lateKeys ntsCookieMaxLen), .load .ntsKe false,
    .rotate .ntsKe (some 7776999) (randomBytes 5), .save .ntsKe .saved,
    .finish .ntsKe false fixedNonce,
    .call .ntpServer (.unpack []), .load .ntpServer false,
    .rotate .ntpServer (some 7777005) (randomBytes 6), .save .ntpServer .saved]

def orderlyRun : Option (CookieSystem ServerTask) :=
  execute (cookieStep keyedAead) SavesKeep cookieStart orderlyEvents

theorem orderlyRun_executes : orderlyRun.isSome = true := by decide +kernel

theorem orderlyRun_cookie_unpacks : ∃ cookie,
    Unpacks keyedAead (orderlyRun.get orderlyRun_executes) cookie lateKeys :=
  ⟨((orderlyRun.get orderlyRun_executes).created.headD ([], lateKeys)).1,
    created_cookies_unpack (idealAead_roundTrip keyedCrypto)
      (execute_run (Option.some_get orderlyRun_executes).symm) (by decide +kernel)⟩

def issuedKeys : CookieKeys := ⟨fixedKey, fixedKey, 3, 5185010, 5271410⟩

/-- The NTS-KE task issues keys and creates a cookie for them while the NTP server task is about to
save the ring it has rotated itself. -/
def raceEvents : List (CookieEvent ServerTask) :=
  [.ensure false (some 1000) (randomBytes 1) .saved, .wait 5185010,
    .call .ntsKe .generate, .call .ntpServer (.unpack []),
    .load .ntsKe false, .load .ntpServer false,
    .rotate .ntsKe (some 5185010) (randomBytes 5), .rotate .ntpServer (some 5185010) (randomBytes 6),
    .save .ntsKe .saved, .finish .ntsKe false fixedNonce,
    .call .ntsKe (.create issuedKeys ntsCookieMaxLen), .load .ntsKe false,
    .rotate .ntsKe (some 5185010) (randomBytes 7), .finish .ntsKe false fixedNonce,
    .save .ntpServer .saved, .finish .ntpServer false fixedNonce]

def racedRun : Option (CookieSystem ServerTask) :=
  execute (cookieStep keyedAead) (fun _ _ => True) cookieStart raceEvents

theorem racedRun_executes : racedRun.isSome = true := by decide +kernel

theorem overwritten_ring_loses_cookie : keyedAead.RoundTrip ∧
    ¬∀ (past : List (CookieEvent ServerTask)) (s : CookieSystem ServerTask),
      FreeRun (cookieStep keyedAead) cookieStart past s →
      ∀ cookie keys, (cookie, keys) ∈ s.created → Unpacks keyedAead s cookie keys := by
  refine ⟨idealAead_roundTrip keyedCrypto, fun claim => ?_⟩
  let s := racedRun.get racedRun_executes
  have run : FreeRun (cookieStep keyedAead) cookieStart raceEvents.reverse s :=
    execute_run (Option.some_get racedRun_executes).symm
  have created : ∃ cookie, s.created = [(cookie, issuedKeys)] ∧
      s.unpack keyedAead cookie 5185010 = .error .invalidCrc := by
    refine ⟨(s.created.headD ([], issuedKeys)).1, ?_, ?_⟩ <;> decide +kernel
  obtain ⟨cookie, created, refused⟩ := created
  have now : s.nowNtp = 5185010 := by decide +kernel
  obtain ⟨id, accepted⟩ := (claim _ s run cookie issuedKeys (by simp [created])).unpacks 5185010
    now.le (by decide)
  cases refused.symm.trans accepted

end NtsTimeServer.Proof
