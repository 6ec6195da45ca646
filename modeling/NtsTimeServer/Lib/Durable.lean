import Mathlib.Data.List.Basic

/-!
# Writes to storage that outlives the power

A call writes in batches; a commit ends each batch. A write is atomic, and until its batch is committed
it may be durable or not, whatever the others are.
-/

namespace NtsTimeServer.Lib

variable {σ : Type*}

def applyAll (writes : List (σ → σ)) (s : σ) : σ := writes.foldl (fun s write => write s) s

@[simp] theorem applyAll_nil (s : σ) : applyAll [] s = s := rfl

@[simp] theorem applyAll_cons (write : σ → σ) (writes : List (σ → σ)) (s : σ) :
    applyAll (write :: writes) s = applyAll writes (write s) := rfl

theorem applyAll_append (first second : List (σ → σ)) (s : σ) :
    applyAll (first ++ second) s = applyAll second (applyAll first s) := List.foldl_append

def commitAll (batches : List (List (σ → σ))) (s : σ) : σ := applyAll batches.flatten s

@[simp] theorem commitAll_nil (s : σ) : commitAll [] s = s := rfl

@[simp] theorem commitAll_cons (batch : List (σ → σ)) (rest : List (List (σ → σ))) (s : σ) :
    commitAll (batch :: rest) s = commitAll rest (applyAll batch s) := by
  simp [commitAll, applyAll_append]

theorem commitAll_append (first second : List (List (σ → σ))) (s : σ) :
    commitAll (first ++ second) s = commitAll second (commitAll first s) := by
  simp [commitAll, applyAll_append]

/-- What may be durable when the call ends early, at any point, or at its end. -/
inductive Interrupted : List (List (σ → σ)) → σ → σ → Prop
  | within {batch done : List (σ → σ)} {rest : List (List (σ → σ))} {s : σ} : done.Sublist batch →
      Interrupted (batch :: rest) s (applyAll done s)
  | later {batch : List (σ → σ)} {rest : List (List (σ → σ))} {s t : σ} :
      Interrupted rest (applyAll batch s) t → Interrupted (batch :: rest) s t
  | finished {s : σ} : Interrupted [] s s

theorem interrupted_start (batches : List (List (σ → σ))) (s : σ) : Interrupted batches s s := by
  cases batches with
  | nil => exact .finished
  | cons batch rest => exact .within (List.nil_sublist batch)

theorem interrupted_take (count : Nat) (batches : List (List (σ → σ))) (s : σ) :
    Interrupted batches s (commitAll (batches.take count) s) := by
  induction batches generalizing count s with
  | nil =>
      rw [List.take_nil]
      exact .finished
  | cons batch rest ih =>
      cases count with
      | zero => exact interrupted_start _ s
      | succ count =>
          rw [List.take_succ_cons, commitAll_cons]
          exact .later (ih count _)

theorem interrupted_end (batches : List (List (σ → σ))) (s : σ) :
    Interrupted batches s (commitAll batches s) := by
  have whole := interrupted_take batches.length batches s
  rwa [List.take_length] at whole

theorem interrupted_nil {s t : σ} : Interrupted [] s t ↔ t = s := by
  constructor
  · rintro ⟨⟩
    rfl
  · rintro rfl
    exact .finished

theorem interrupted_cons {batch : List (σ → σ)} {rest : List (List (σ → σ))} {s t : σ} :
    Interrupted (batch :: rest) s t ↔
      (∃ done : List (σ → σ), done.Sublist batch ∧ t = applyAll done s) ∨
        Interrupted rest (applyAll batch s) t := by
  constructor
  · rintro (⟨part⟩ | ⟨later⟩)
    · exact .inl ⟨_, part, rfl⟩
    · exact .inr later
  · rintro (⟨done, part, rfl⟩ | later)
    · exact .within part
    · exact .later later

theorem interrupted_append {first second : List (List (σ → σ))} {s t : σ} :
    Interrupted (first ++ second) s t ↔ Interrupted first s t ∨
      Interrupted second (commitAll first s) t := by
  induction first generalizing s with
  | nil =>
      rw [List.nil_append, interrupted_nil, commitAll_nil]
      refine ⟨.inr, fun either => either.elim (fun same => ?_) id⟩
      subst same
      exact interrupted_start second t
  | cons batch rest ih =>
      rw [List.cons_append, interrupted_cons, interrupted_cons, ih, commitAll_cons, or_assoc]

theorem applyAll_sublist_rule {writes done : List (σ → σ)} (property : σ → Prop)
    (preserved : ∀ write ∈ writes, ∀ s, property s → property (write s)) (part : done.Sublist writes)
    {s : σ} (holds : property s) : property (applyAll done s) := by
  induction done generalizing s with
  | nil => exact holds
  | cons write done ih =>
      have member : write ∈ writes := part.subset List.mem_cons_self
      exact ih ((List.sublist_cons_self _ _).trans part) (preserved write member s holds)

end NtsTimeServer.Lib
