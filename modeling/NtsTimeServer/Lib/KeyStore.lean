import Mathlib.Logic.Function.Basic
import NtsTimeServer.Lib.Durable

/-!
# Records spread over the keys of a store

A record has an entry, or none, under every key, and is stored one key after another.
-/

namespace NtsTimeServer.Lib

variable {κ β : Type*} [DecidableEq κ]

/-- What a store holds after the write of a record's entry under a key; no entry erases the key. -/
def putEntry (record : κ → Option β) (key : κ) (store : κ → Option β) : κ → Option β :=
  Function.update store key (record key)

theorem applyAll_putEntry (record : κ → Option β) (keys : List κ) (store : κ → Option β) :
    applyAll (keys.map (putEntry record)) store =
      fun key => if key ∈ keys then record key else store key := by
  induction keys generalizing store with
  | nil => rfl
  | cons first keys ih =>
      rw [List.map_cons, applyAll_cons, ih]
      funext key
      by_cases later : key ∈ keys
      · simp [later]
      · by_cases same : key = first
        · subst same
          simp [later, putEntry]
        · simp [later, same, putEntry]

theorem applyAll_putEntry_all (record : κ → Option β) {keys : List κ} (all : ∀ key, key ∈ keys)
    (store : κ → Option β) : applyAll (keys.map (putEntry record)) store = record := by
  rw [applyAll_putEntry]
  funext key
  exact if_pos (all key)

end NtsTimeServer.Lib
