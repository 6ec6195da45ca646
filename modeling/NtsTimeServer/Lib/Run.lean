import Mathlib.Order.Basic

/-!
# Runs of a partial step function

A system is a partial step function `step : σ → α → Option σ`: `step s event` is `none` where the
event cannot happen in `s`. `Run step meets start past s` says that the events of `past`, latest
first, take `start` to `s` and that every one of them met the condition `meets` in the state it was
taken from.
-/

namespace NtsTimeServer.Lib

variable {σ α : Type*}

inductive Run (step : σ → α → Option σ) (meets : σ → α → Prop) (start : σ) : List α → σ → Prop
  | start : Run step meets start [] start
  | next {past : List α} {s t : σ} {event : α} : Run step meets start past s → meets s event →
      step s event = some t → Run step meets start (event :: past) t

abbrev FreeRun (step : σ → α → Option σ) : σ → List α → σ → Prop := Run step fun _ _ => True

namespace Run

variable {step : σ → α → Option σ} {meets : σ → α → Prop} {start : σ}

theorem invariant (property : List α → σ → Prop) (initial : property [] start)
    (preserved : ∀ past s event t, property past s → meets s event → step s event = some t →
      property (event :: past) t)
    {past : List α} {s : σ} (run : Run step meets start past s) : property past s := by
  induction run with
  | start => exact initial
  | next _ ok taken ih => exact preserved _ _ _ _ ih ok taken

theorem strengthen {asked : σ → α → Prop} (property : σ → Prop) (initial : property start)
    (granted : ∀ s event t, property s → meets s event → step s event = some t →
      asked s event ∧ property t)
    {past : List α} {s : σ} (run : Run step meets start past s) :
    Run step asked start past s ∧ property s := by
  induction run with
  | start => exact ⟨.start, initial⟩
  | next _ ok taken ih =>
      obtain ⟨met, holds⟩ := granted _ _ _ ih.2 ok taken
      exact ⟨.next ih.1 met taken, holds⟩

theorem append {past later : List α} {s t : σ} (first : Run step meets start past s)
    (second : Run step meets s later t) : Run step meets start (later ++ past) t := by
  induction second with
  | start => exact first
  | next _ ok taken ih => exact .next ih ok taken

end Run

def execute (step : σ → α → Option σ) (meets : σ → α → Prop) [∀ s event, Decidable (meets s event)] :
    σ → List α → Option σ
  | s, [] => some s
  | s, event :: rest =>
      if meets s event then (step s event).bind fun t => execute step meets t rest else none

theorem execute_run {step : σ → α → Option σ} {meets : σ → α → Prop}
    [∀ s event, Decidable (meets s event)] {events : List α} {s t : σ}
    (executed : execute step meets s events = some t) : Run step meets s events.reverse t := by
  induction events generalizing s with
  | nil =>
      rw [execute, Option.some.injEq] at executed
      subst executed
      exact .start
  | cons event rest ih =>
      rw [execute] at executed
      split at executed
      · rename_i ok
        obtain ⟨mid, taken, executed⟩ := Option.bind_eq_some_iff.mp executed
        rw [List.reverse_cons]
        exact Run.append (.next .start ok taken) (ih executed)
      · cases executed

end NtsTimeServer.Lib
