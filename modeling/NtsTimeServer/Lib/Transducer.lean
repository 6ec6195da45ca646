import Mathlib.Data.List.Induction

/-!
# Machines that are fed a stream

`step s a` consumes the symbol `a` in the state `s` and may put something out; it is `none` where
the machine breaks. `feed` consumes a whole stream and collects what is put out.
-/

namespace NtsTimeServer.Lib

variable {σ α ω : Type*} (step : σ → α → Option (σ × Option ω))

def feed : σ → List α → Option (σ × List ω)
  | s, [] => some (s, [])
  | s, a :: rest => (step s a).bind fun next =>
      (feed next.1 rest).map fun ended => (ended.1, next.2.toList ++ ended.2)

variable {step}

@[simp] theorem feed_nil (s : σ) : feed step s [] = some (s, []) := rfl

theorem feed_cons {s t : σ} {a : α} {out : Option ω} (stepped : step s a = some (t, out))
    (rest : List α) :
    feed step s (a :: rest) = (feed step t rest).map fun ended => (ended.1, out.toList ++ ended.2) := by
  rw [feed, stepped, Option.bind_some]

theorem feed_append {s t : σ} {first : List α} {out : List ω} (fed : feed step s first = some (t, out))
    (second : List α) :
    feed step s (first ++ second) =
      (feed step t second).map fun ended => (ended.1, out ++ ended.2) := by
  induction first generalizing s out with
  | nil =>
      obtain ⟨rfl, rfl⟩ := Prod.mk.inj (Option.some.inj fed)
      simp
  | cons a rest ih =>
      rw [feed] at fed
      obtain ⟨next, stepped, fed⟩ := Option.bind_eq_some_iff.mp fed
      obtain ⟨ended, fedRest, same⟩ := Option.map_eq_some_iff.mp fed
      obtain ⟨rfl, rfl⟩ := Prod.mk.inj same
      rw [List.cons_append, feed_cons stepped, ih fedRest, Option.map_map]
      simp [Function.comp_def]

theorem feed_singleton {s t : σ} {a : α} {out : Option ω} (stepped : step s a = some (t, out)) :
    feed step s [a] = some (t, out.toList) := by
  rw [feed_cons stepped, feed_nil, Option.map_some, List.append_nil]

/-- What every symbol preserves holds of every stream, and the machine never breaks on one. -/
theorem feed_rule (property : List α → σ → List ω → Prop) {start : σ} (initial : property [] start [])
    (preserved : ∀ read s out a, property read s out →
      ∃ t more, step s a = some (t, more) ∧ property (read ++ [a]) t (out ++ more.toList))
    (stream : List α) :
    ∃ s out, feed step start stream = some (s, out) ∧ property stream s out := by
  induction stream using List.reverseRecOn with
  | nil => exact ⟨start, [], rfl, initial⟩
  | append_singleton read a ih =>
      obtain ⟨s, out, fed, holds⟩ := ih
      obtain ⟨t, more, stepped, holds'⟩ := preserved read s out a holds
      refine ⟨t, out ++ more.toList, ?_, holds'⟩
      rw [feed_append fed, feed_singleton stepped, Option.map_some]

theorem foldl_rule {step : σ → α → σ} {list : List α} (property : List α → σ → Prop) {start : σ}
    (initial : property [] start)
    (preserved : ∀ read a rest s, list = read ++ a :: rest → property read s →
      property (read ++ [a]) (step s a)) : property list (list.foldl step start) := by
  have go (rest read : List α) (s : σ) (split : list = read ++ rest) (holds : property read s) :
      property list (rest.foldl step s) := by
    induction rest generalizing read s with
    | nil =>
        rw [List.append_nil] at split
        exact split ▸ holds
    | cons a rest ih =>
        refine ih (read ++ [a]) (step s a) ?_ (preserved read a rest s split holds)
        rw [split, List.append_assoc, List.singleton_append]
  exact go list [] start rfl initial

end NtsTimeServer.Lib
