import NtsTimeServer.Model.Keyring

namespace NtsTimeServer.Proof
open Model Lib

def KeyIdValid (keyId : Nat) : Prop := 1 ≤ keyId ∧ keyId < 2 ^ 32

theorem nextKeyId_cases (keyId : Nat) :
    (keyId + 1) % 2 ^ 32 = 0 ∧ nextKeyId keyId = 1 ∨
      (keyId + 1) % 2 ^ 32 ≠ 0 ∧ nextKeyId keyId = (keyId + 1) % 2 ^ 32 := by
  by_cases wraps : u32 (keyId + 1) = 0
  · exact Or.inl ⟨wraps, if_pos wraps⟩
  · exact Or.inr ⟨wraps, if_neg wraps⟩

theorem nextKeyId_valid (keyId : Nat) : KeyIdValid (nextKeyId keyId) := by
  have := Nat.mod_lt (keyId + 1) (show 0 < 2 ^ 32 by decide)
  unfold KeyIdValid
  rcases nextKeyId_cases keyId with ⟨-, next⟩ | ⟨wraps, next⟩ <;> omega

theorem nextKeyId_ne {keyId : Nat} (valid : KeyIdValid keyId) : nextKeyId keyId ≠ keyId := by
  obtain ⟨low, high⟩ := valid
  rcases nextKeyId_cases keyId with ⟨wraps, next⟩ | ⟨wraps, next⟩ <;> omega

theorem nextKeyId_nextKeyId_ne {keyId : Nat} (valid : KeyIdValid keyId) :
    nextKeyId (nextKeyId keyId) ≠ keyId := by
  obtain ⟨low, high⟩ := valid
  rcases nextKeyId_cases keyId with ⟨wraps, next⟩ | ⟨wraps, next⟩ <;>
    rcases nextKeyId_cases (nextKeyId keyId) with ⟨wraps', next'⟩ | ⟨wraps', next'⟩ <;> omega

structure Consecutive (keyring : Keyring) : Prop where
  activeId : KeyIdValid keyring.active.keyId
  nextId : keyring.next.keyId = nextKeyId keyring.active.keyId
  previousId : keyring.previous.valid ≠ 0 → KeyIdValid keyring.previous.keyId ∧
    keyring.active.keyId = nextKeyId keyring.previous.keyId

theorem Consecutive.idsDistinct {keyring : Keyring} (consecutive : Consecutive keyring) :
    keyIdsDistinct keyring = true := by
  have activeNext : keyring.active.keyId ≠ keyring.next.keyId := by
    rw [consecutive.nextId]
    exact (nextKeyId_ne consecutive.activeId).symm
  by_cases empty : keyring.previous.valid = 0
  · simp [keyIdsDistinct, slotIdsDistinct, empty, activeNext]
  · obtain ⟨previousId, activeId⟩ := consecutive.previousId empty
    have previousActive : keyring.previous.keyId ≠ keyring.active.keyId := by
      rw [activeId]
      exact (nextKeyId_ne previousId).symm
    have previousNext : keyring.previous.keyId ≠ keyring.next.keyId := by
      rw [consecutive.nextId, activeId]
      exact (nextKeyId_nextKeyId_ne previousId).symm
    simp [keyIdsDistinct, slotIdsDistinct, activeNext, previousActive, previousNext]

theorem Consecutive.rotateOnce {keyring : Keyring} (consecutive : Consecutive keyring)
    (random : Bytes) : Consecutive (rotateOnce keyring random) := by
  refine ⟨?_, rfl, fun _ => ⟨consecutive.activeId, consecutive.nextId⟩⟩
  change KeyIdValid keyring.next.keyId
  rw [consecutive.nextId]
  exact nextKeyId_valid _

theorem populatedSlotValid_iff {slot : CookieKey} : populatedSlotValid slot = true ↔
    slot.valid = 1 ∧ slot.keyId ≠ 0 ∧ slot.notBeforeNtp < slot.notAfterNtp := by
  simp [populatedSlotValid, and_assoc]

theorem slotAcceptable_of_populated {slot : CookieKey} (populated : populatedSlotValid slot = true) :
    slotAcceptable slot = true := by
  have valid := (populatedSlotValid_iff.mp populated).1
  simp [slotAcceptable, slotValidValue, populated, valid]

/-- What is left of the checks once those that others imply are dropped. -/
theorem validateCookieKeyring_ok_iff {keyring : Keyring} :
    validateCookieKeyring keyring = .ok ↔ slotAcceptable keyring.previous = true ∧
      populatedSlotValid keyring.active = true ∧ populatedSlotValid keyring.next = true ∧
      keyIdsDistinct keyring = true ∧ keyring.next.notBeforeNtp = keyring.active.notAfterNtp ∧
      (keyring.previous.valid ≠ 0 → keyring.previous.notAfterNtp = keyring.active.notBeforeNtp) := by
  unfold validateCookieKeyring
  constructor
  · intro validates
    split_ifs at validates with acceptable active next distinct start period previous
    refine ⟨?_, active, next, distinct, not_not.mp start, fun valid => ?_⟩
    · exact not_not.mp fun refused => acceptable (Or.inl refused)
    · exact not_not.mp fun gap => previous ⟨valid, gap⟩
  · rintro ⟨previous, active, next, distinct, start, contiguous⟩
    have period := (populatedSlotValid_iff.mp next).2.2
    rw [if_neg, if_neg, if_neg, if_neg, if_neg, if_neg, if_neg]
    · exact fun gap => gap.2 (contiguous gap.1)
    · exact not_le.mpr period
    · exact not_not.mpr start
    · exact not_not.mpr distinct
    · exact not_not.mpr next
    · exact not_not.mpr active
    · simp [previous, slotAcceptable_of_populated active, slotAcceptable_of_populated next]

/-! ## Regular rings -/

structure Regular (keyring : Keyring) : Prop where
  activeValid : keyring.active.valid = 1
  nextValid : keyring.next.valid = 1
  previousValid : keyring.previous.valid = 0 ∨ keyring.previous.valid = 1
  activeId : KeyIdValid keyring.active.keyId
  nextId : keyring.next.keyId = nextKeyId keyring.active.keyId
  activeStart : keyring.active.notBeforeNtp < 2 ^ 32
  activeEnd : keyring.active.notAfterNtp =
    keyring.active.notBeforeNtp + ntsStorageKeyPeriodSeconds
  nextStart : keyring.next.notBeforeNtp = keyring.active.notAfterNtp
  nextEnd : keyring.next.notAfterNtp = keyring.next.notBeforeNtp + ntsStorageKeyPeriodSeconds
  previousId : keyring.previous.valid = 1 → KeyIdValid keyring.previous.keyId ∧
    keyring.active.keyId = nextKeyId keyring.previous.keyId
  previousPeriod : keyring.previous.valid = 1 →
    keyring.previous.notBeforeNtp < keyring.previous.notAfterNtp ∧
      keyring.previous.notAfterNtp = keyring.active.notBeforeNtp

theorem generateNextSlot_end {notBeforeNtp : Nat} (fits : notBeforeNtp < 2 ^ 33) (keyId : Nat)
    (random : Bytes) : (generateNextSlot keyId notBeforeNtp random).notAfterNtp =
      notBeforeNtp + ntsStorageKeyPeriodSeconds := by
  refine u64_eq ?_
  simp only [ntsStorageKeyPeriodSeconds]
  omega

theorem newKeyring_regular {nowNtp : Nat} (fits : nowNtp < 2 ^ 32) (random : Nat → Bytes) :
    Regular (newKeyring nowNtp random) := by
  have activeEnd := generateNextSlot_end (show nowNtp < 2 ^ 33 by omega) 1 (random 0)
  have small : (generateNextSlot 1 nowNtp (random 0)).notAfterNtp < 2 ^ 33 := by
    rw [activeEnd]
    simp only [ntsStorageKeyPeriodSeconds]
    omega
  refine ⟨rfl, rfl, Or.inl rfl, show KeyIdValid 1 from ⟨by decide, by decide⟩,
    show 2 = nextKeyId 1 by decide, fits, activeEnd, rfl, ?_, nofun, nofun⟩
  exact generateNextSlot_end small 2 (random 1)

theorem rotateOnce_regular {keyring : Keyring} (regular : Regular keyring) {nowNtp : Nat}
    (due : keyring.active.notAfterNtp ≤ nowNtp) (fits : nowNtp < 2 ^ 32) (random : Bytes) :
    Regular (rotateOnce keyring random) := by
  have start := regular.nextStart
  have small : keyring.next.notAfterNtp < 2 ^ 33 := by
    rw [regular.nextEnd]
    simp only [ntsStorageKeyPeriodSeconds]
    omega
  refine ⟨regular.nextValid, rfl, Or.inr regular.activeValid, ?_, rfl, ?_, regular.nextEnd, rfl,
    generateNextSlot_end small _ random, fun _ => ⟨regular.activeId, regular.nextId⟩, fun _ => ⟨?_, ?_⟩⟩
  · change KeyIdValid keyring.next.keyId
    rw [regular.nextId]
    exact nextKeyId_valid _
  · change keyring.next.notBeforeNtp < 2 ^ 32
    omega
  · change keyring.active.notBeforeNtp < keyring.active.notAfterNtp
    rw [regular.activeEnd]
    simp only [ntsStorageKeyPeriodSeconds]
    omega
  · exact start.symm

theorem Regular.activePopulated {keyring : Keyring} (regular : Regular keyring) :
    populatedSlotValid keyring.active = true := by
  refine populatedSlotValid_iff.mpr ⟨regular.activeValid, ?_, ?_⟩
  · have := regular.activeId.1
    omega
  · rw [regular.activeEnd]
    simp only [ntsStorageKeyPeriodSeconds]
    omega

theorem Regular.nextPopulated {keyring : Keyring} (regular : Regular keyring) :
    populatedSlotValid keyring.next = true := by
  refine populatedSlotValid_iff.mpr ⟨regular.nextValid, ?_, ?_⟩
  · have := (nextKeyId_valid keyring.active.keyId).1
    rw [regular.nextId]
    omega
  · rw [regular.nextEnd]
    simp only [ntsStorageKeyPeriodSeconds]
    omega

theorem Regular.previousAcceptable {keyring : Keyring} (regular : Regular keyring) :
    slotAcceptable keyring.previous = true := by
  rcases regular.previousValid with empty | valid
  · simp [slotAcceptable, slotValidValue, empty]
  · have id := (regular.previousId valid).1.1
    exact slotAcceptable_of_populated (populatedSlotValid_iff.mpr
      ⟨valid, by omega, (regular.previousPeriod valid).1⟩)

theorem Regular.consecutive {keyring : Keyring} (regular : Regular keyring) :
    Consecutive keyring :=
  ⟨regular.activeId, regular.nextId, fun valid =>
    regular.previousId (regular.previousValid.resolve_left valid)⟩

theorem Regular.validates {keyring : Keyring} (regular : Regular keyring) :
    validateCookieKeyring keyring = .ok :=
  validateCookieKeyring_ok_iff.mpr ⟨regular.previousAcceptable, regular.activePopulated,
    regular.nextPopulated, regular.consecutive.idsDistinct, regular.nextStart,
    fun valid => (regular.previousPeriod (regular.previousValid.resolve_left valid)).2⟩

theorem loadCookieKeyring_ok {store : Option Keyring} {fails : Bool} {keyring : Keyring}
    (loaded : loadCookieKeyring store fails = .ok keyring) : keyring ∈ store := by
  cases fails <;> cases store <;> cases loaded
  rfl

/-! ## Keys that may protect cookies -/

def Serves (keyring : Keyring) (slot : CookieKey) : Prop :=
  slot.valid = 1 ∧ (slot = keyring.previous ∨ slot = keyring.active)

instance (keyring : Keyring) (slot : CookieKey) : Decidable (Serves keyring slot) :=
  inferInstanceAs (Decidable (_ ∧ _))

/-- Every key that serves in the first ring serves in the second, or has ended long enough ago for
every cookie under it to have expired. -/
def Keeps (lifetime nowNtp : Nat) (before after : Keyring) : Prop :=
  ∀ slot, Serves before slot → Serves after slot ∨ slot.notAfterNtp + lifetime ≤ nowNtp

theorem keeps_iff {lifetime nowNtp : Nat} {before after : Keyring} :
    Keeps lifetime nowNtp before after ↔ ∀ slot ∈ [before.previous, before.active],
      Serves before slot → Serves after slot ∨ slot.notAfterNtp + lifetime ≤ nowNtp := by
  constructor
  · exact fun keeps slot _ => keeps slot
  · intro keeps slot serves
    exact keeps slot (by rcases serves.2 with rfl | rfl <;> simp) serves

instance (lifetime nowNtp : Nat) (before after : Keyring) :
    Decidable (Keeps lifetime nowNtp before after) := decidable_of_iff _ keeps_iff.symm

theorem Keeps.refl (lifetime nowNtp : Nat) (keyring : Keyring) :
    Keeps lifetime nowNtp keyring keyring := fun _ serves => Or.inl serves

theorem Keeps.trans {lifetime nowNtp : Nat} {first second third : Keyring}
    (h₁ : Keeps lifetime nowNtp first second) (h₂ : Keeps lifetime nowNtp second third) :
    Keeps lifetime nowNtp first third := by
  intro slot serves
  rcases h₁ slot serves with serves | ended
  · exact h₂ slot serves
  · exact Or.inr ended

theorem Keeps.later {lifetime nowNtp later : Nat} {before after : Keyring}
    (keeps : Keeps lifetime nowNtp before after) (le : nowNtp ≤ later) :
    Keeps lifetime later before after := by
  intro slot serves
  rcases keeps slot serves with serves | ended
  · exact Or.inl serves
  · exact Or.inr (by omega)

theorem rotateOnce_keeps {keyring : Keyring} (regular : Regular keyring) {nowNtp : Nat}
    (due : keyring.active.notAfterNtp ≤ nowNtp) (random : Bytes) :
    Keeps ntsStorageKeyPeriodSeconds nowNtp keyring (rotateOnce keyring random) := by
  rintro slot ⟨valid, rfl | rfl⟩
  · have ended := (regular.previousPeriod valid).2
    have period := regular.activeEnd
    exact Or.inr (by omega)
  · exact Or.inl ⟨valid, Or.inl rfl⟩

theorem rotateOnce_end {keyring : Keyring} (regular : Regular keyring) (random : Bytes) :
    keyring.active.notAfterNtp < (rotateOnce keyring random).active.notAfterNtp := by
  change keyring.active.notAfterNtp < keyring.next.notAfterNtp
  rw [regular.nextEnd, regular.nextStart]
  simp only [ntsStorageKeyPeriodSeconds]
  omega

theorem rotateWhileDue_spec {nowNtp : Nat} (fits : nowNtp < 2 ^ 32) {fuel : Nat}
    (random : Nat → Bytes) {keyring : Keyring} (regular : Regular keyring)
    (enough : nowNtp < fuel + keyring.active.notAfterNtp) :
    Regular (rotateWhileDue nowNtp fuel random keyring) ∧
      nowNtp < (rotateWhileDue nowNtp fuel random keyring).active.notAfterNtp ∧
      Keeps ntsStorageKeyPeriodSeconds nowNtp keyring (rotateWhileDue nowNtp fuel random keyring) := by
  induction fuel generalizing random keyring with
  | zero => exact ⟨regular, by simpa [rotateWhileDue] using enough, Keeps.refl _ _ _⟩
  | succ fuel ih =>
      rw [rotateWhileDue]
      split
      · rename_i due
        have later := rotateOnce_end regular (random 0)
        have enough' : nowNtp < fuel + (rotateOnce keyring (random 0)).active.notAfterNtp := by omega
        obtain ⟨regular', ends, keeps⟩ := ih (fun turn => random (turn + 1))
          (rotateOnce_regular regular due fits (random 0)) enough'
        exact ⟨regular', ends, (rotateOnce_keeps regular due (random 0)).trans keeps⟩
      · rename_i early
        exact ⟨regular, not_le.mp early, Keeps.refl _ _ _⟩

theorem maintainLoaded_regular {keyring : Keyring} (regular : Regular keyring) {nowNtp : Nat}
    (fits : nowNtp < 2 ^ 32) (random : Nat → Bytes) :
    ∃ changed after, maintainLoaded keyring (some nowNtp) random = .ok (changed, after) ∧
      Regular after ∧ nowNtp < after.active.notAfterNtp ∧
      Keeps ntsStorageKeyPeriodSeconds nowNtp keyring after ∧ (changed = false → after = keyring) := by
  have enough : nowNtp < nowNtp + 1 + keyring.active.notAfterNtp := by omega
  obtain ⟨regular', ends, keeps⟩ := rotateWhileDue_spec fits random regular enough
  refine ⟨decide (nowNtp ≥ keyring.active.notAfterNtp), _, ?_, regular', ends, keeps, ?_⟩
  · rw [maintainLoaded, if_neg (not_not.mpr regular.validates)]
  · intro unchanged
    have early : ¬nowNtp ≥ keyring.active.notAfterNtp := by simpa using unchanged
    rw [rotateWhileDue, if_neg early]

theorem maintainLoaded_inv {keyring after : Keyring} (regular : Regular keyring) {clock : Option Nat}
    {nowNtp : Nat} (now : ∀ now ∈ clock, now = nowNtp) (fits : nowNtp < 2 ^ 32)
    {random : Nat → Bytes} {changed : Bool}
    (maintained : maintainLoaded keyring clock random = .ok (changed, after)) :
    Regular after ∧ nowNtp < after.active.notAfterNtp ∧
      Keeps ntsStorageKeyPeriodSeconds nowNtp keyring after ∧ (changed = false → after = keyring) := by
  cases clock with
  | none => simp [maintainLoaded, regular.validates] at maintained
  | some reading =>
      obtain rfl := now reading rfl
      obtain ⟨changed', after', maintained', promises⟩ := maintainLoaded_regular regular fits random
      cases maintained.symm.trans maintained'
      exact promises

end NtsTimeServer.Proof
