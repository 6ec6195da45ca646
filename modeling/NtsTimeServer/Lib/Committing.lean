import NtsTimeServer.Lib.Durable

/-!
# Calls that commit, and what a loss of power leaves

A call reads the storage, returns and writes in batches. `Survives before call lost after` says that from a
storage with `before`, a loss of power at any point leaves one with `lost`, and a call that returns leaves
one with `after` what it returns.
-/

namespace NtsTimeServer.Lib

def Committing (σ α : Type) : Type := σ → α × List (List (σ → σ))

namespace Committing

variable {σ τ α β : Type}

def returning (a : α) : Committing σ α := fun _ => (a, [])

def andThen (call : Committing σ α) (next : α → Committing σ β) : Committing σ β := fun s =>
  let (a, batches) := call s
  let (b, later) := next a (commitAll batches s)
  (b, batches ++ later)

instance : Monad (Committing σ) where
  pure := returning
  bind := andThen

def read (value : σ → α) : Committing σ α := fun s => (value s, [])

/-- One write with its commit. -/
def commit (write : σ → σ) : Committing σ Unit := fun _ => ((), [[write]])

/-- A call on a part of the storage. -/
def within (get : τ → σ) (set : σ → τ → τ) (call : Committing σ α) : Committing τ α := fun t =>
  let (a, batches) := call (get t)
  (a, batches.map fun batch => batch.map fun write t => set (write (get t)) t)

end Committing

/-! ## Parts of a storage -/

section
variable {σ τ : Type}

structure StoragePart (get : τ → σ) (set : σ → τ → τ) : Prop where
  get_set : ∀ s t, get (set s t) = s
  set_get : ∀ t, set (get t) t = t
  set_set : ∀ s s' t, set s (set s' t) = set s t

variable {get : τ → σ} {set : σ → τ → τ}

theorem applyAll_part (part : StoragePart get set) (writes : List (σ → σ)) (t : τ) :
    applyAll (writes.map fun write t => set (write (get t)) t) t = set (applyAll writes (get t)) t := by
  induction writes generalizing t with
  | nil => exact (part.set_get t).symm
  | cons write writes ih =>
      rw [List.map_cons, applyAll_cons, ih, part.get_set, part.set_set, applyAll_cons]

theorem commitAll_part (part : StoragePart get set) (batches : List (List (σ → σ))) (t : τ) :
    commitAll (batches.map fun batch => batch.map fun write t => set (write (get t)) t) t =
      set (commitAll batches (get t)) t := by
  induction batches generalizing t with
  | nil => exact (part.set_get t).symm
  | cons batch batches ih =>
      rw [List.map_cons, commitAll_cons, ih, applyAll_part part, part.get_set, part.set_set,
        commitAll_cons]

theorem interrupted_part (part : StoragePart get set) {batches : List (List (σ → σ))} {t u : τ}
    (interrupted : Interrupted
      (batches.map fun batch => batch.map fun write t => set (write (get t)) t) t u) :
    ∃ s, Interrupted batches (get t) s ∧ u = set s t := by
  induction batches generalizing t with
  | nil =>
      rw [List.map_nil, interrupted_nil] at interrupted
      exact ⟨get t, .finished, interrupted.trans (part.set_get t).symm⟩
  | cons batch batches ih =>
      rw [List.map_cons, interrupted_cons] at interrupted
      obtain ⟨done, fewer, rfl⟩ | later := interrupted
      · obtain ⟨writes, kept, rfl⟩ := List.sublist_map_iff.mp fewer
        exact ⟨applyAll writes (get t), .within kept, applyAll_part part writes t⟩
      · obtain ⟨s, left, rfl⟩ := ih later
        rw [applyAll_part part, part.get_set] at left
        exact ⟨s, .later left, by rw [applyAll_part part, part.set_set]⟩

end

structure Survives {σ α : Type} (before : σ → Prop) (call : Committing σ α) (lost : σ → Prop)
    (after : α → σ → Prop) : Prop where
  lost : ∀ s, before s → ∀ t, Interrupted (call s).2 s t → lost t
  after : ∀ s, before s → after (call s).1 (commitAll (call s).2 s)

namespace Survives
open Committing

variable {σ τ α β : Type} {before before' : σ → Prop} {lost lost' : σ → Prop}

theorem weaken {call : Committing σ α} {after after' : α → σ → Prop}
    (survives : Survives before call lost after) (weaker : ∀ s, before' s → before s)
    (still : ∀ s, lost s → lost' s) (later : ∀ a s, after a s → after' a s) :
    Survives before' call lost' after' where
  lost s holds t interrupted := still t (survives.lost s (weaker s holds) t interrupted)
  after s holds := later _ _ (survives.after s (weaker s holds))

theorem returns {call : Committing σ α} {after : α → σ → Prop}
    (survives : Survives before call lost after) :
    Survives before call lost fun a s => lost s ∧ after a s where
  lost := survives.lost
  after s holds := ⟨survives.lost s holds _ (interrupted_end _ _), survives.after s holds⟩

theorem given {call : Committing σ α} {after : α → σ → Prop} {fact : Prop}
    (survives : fact → Survives before call lost after) :
    Survives (fun s => before s ∧ fact) call lost after where
  lost s holds := (survives holds.2).lost s holds.1
  after s holds := (survives holds.2).after s holds.1

theorem some {ι : Type} {each : ι → σ → Prop} {call : Committing σ α} {after : α → σ → Prop}
    (survives : ∀ i, Survives (each i) call lost after) :
    Survives (fun s => ∃ i, each i s) call lost after where
  lost s := fun ⟨i, holds⟩ => (survives i).lost s holds
  after s := fun ⟨i, holds⟩ => (survives i).after s holds

theorem pure {a : α} {after : α → σ → Prop} (holds : ∀ s, before s → lost s ∧ after a s) :
    Survives before (Pure.pure a : Committing σ α) lost after where
  lost s here _ interrupted := interrupted_nil.mp interrupted ▸ (holds s here).1
  after s here := (holds s here).2

theorem bind {call : Committing σ α} {next : α → Committing σ β} (middle : α → σ → Prop)
    {after : β → σ → Prop} (first : Survives before call lost middle)
    (second : ∀ a, Survives (middle a) (next a) lost after) :
    Survives before (call >>= next) lost after where
  lost s holds t interrupted := by
    obtain early | late := interrupted_append.mp interrupted
    · exact first.lost s holds t early
    · exact (second (call s).1).lost _ (first.after s holds) t late
  after s holds := by
    have later := (second (call s).1).after _ (first.after s holds)
    rw [← commitAll_append] at later
    exact later

theorem read {value : σ → α} {after : α → σ → Prop}
    (holds : ∀ s, before s → lost s ∧ after (value s) s) : Survives before (read value) lost after where
  lost s here _ interrupted := interrupted_nil.mp interrupted ▸ (holds s here).1
  after s here := (holds s here).2

theorem commit {write : σ → σ} {after : Unit → σ → Prop}
    (holds : ∀ s, before s → lost s ∧ lost (write s) ∧ after () (write s)) :
    Survives before (commit write) lost after where
  lost s here t interrupted := by
    obtain ⟨done, part, rfl⟩ | finished := interrupted_cons.mp interrupted
    · obtain rfl | rfl := List.sublist_singleton.mp part
      · exact (holds s here).1
      · exact (holds s here).2.1
    · rw [interrupted_nil.mp finished]
      exact (holds s here).2.1
  after s here := (holds s here).2.2

theorem within {get : τ → σ} {set : σ → τ → τ} (part : StoragePart get set) {call : Committing σ α}
    {start : τ → Prop} {lost : τ → Prop} {after : α → τ → Prop}
    (survives : ∀ t, start t → Survives (· = get t) call (fun s => lost (set s t))
      fun a s => after a (set s t)) :
    Survives start (within get set call) lost after where
  lost t holds u interrupted := by
    obtain ⟨s, left, rfl⟩ := interrupted_part part interrupted
    exact (survives t holds).lost (get t) rfl s left
  after t holds := by
    rw [Committing.within, commitAll_part part]
    exact (survives t holds).after (get t) rfl

end Survives

end NtsTimeServer.Lib
