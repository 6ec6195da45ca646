import Mathlib.Logic.Basic

/-!
# What a stateful computation always returns

`Always m P` says that the result of `m` satisfies `P` whatever state it is run from.
-/

namespace NtsTimeServer.Lib

variable {σ α β : Type}

def Always (m : StateM σ α) (P : α → Prop) : Prop := ∀ s, P (m.run s).1

theorem Always.pure {P : α → Prop} {a : α} (holds : P a) : Always (pure a : StateM σ α) P :=
  fun _ => holds

theorem Always.bind {P : β → Prop} {m : StateM σ α} {f : α → StateM σ β}
    (holds : ∀ a, Always (f a) P) : Always (m >>= f) P :=
  fun s => holds (m.run s).1 (m.run s).2

theorem Always.run_bind {P : β → Prop} {m : StateM σ α} {f : α → StateM σ β} {s : σ} {a : α}
    (returned : (m.run s).1 = a) (holds : Always (f a) P) : P ((m >>= f).run s).1 := by
  subst returned
  exact holds (m.run s).2

/-! ## Computations that may fail -/

def Returns {ε : Type} (m : ExceptT ε (StateM σ) α) (P : α → Prop) : Prop :=
  Always m.run fun result => ∀ a, result = .ok a → P a

section

variable {ε : Type} {P : α → Prop} {Q : β → Prop}

theorem Returns.pure {a : α} (holds : P a) : Returns (pure a : ExceptT ε (StateM σ) α) P :=
  fun _ _ returned => Except.ok.inj returned ▸ holds

theorem Returns.throw (err : ε) : Returns (throw err : ExceptT ε (StateM σ) α) P :=
  fun _ _ returned => by cases returned

theorem Returns.lift {m : StateM σ α} (always : Always m P) :
    Returns (liftM m : ExceptT ε (StateM σ) α) P :=
  fun s _ returned => Except.ok.inj returned ▸ always s

theorem Returns.bind {m : ExceptT ε (StateM σ) α} {f : α → ExceptT ε (StateM σ) β}
    (first : Returns m P) (second : ∀ a, P a → Returns (f a) Q) : Returns (m >>= f) Q := by
  intro s
  have yielded := first s
  rw [ExceptT.run_bind]
  refine Always.run_bind (P := fun result : Except ε β => ∀ b, result = .ok b → Q b) rfl ?_
  cases result : (m.run.run s).1 with
  | error err => exact Always.pure fun b returned => by cases returned
  | ok a => exact second a (yielded a result)

theorem Returns.throw_bind (err : ε) (f : α → ExceptT ε (StateM σ) β) :
    Returns ((MonadExcept.throw err : ExceptT ε (StateM σ) α) >>= f) Q :=
  (Returns.throw (P := fun _ => False) err).bind fun _ absurd => absurd.elim

end

end NtsTimeServer.Lib
