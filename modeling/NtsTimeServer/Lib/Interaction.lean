import Mathlib.Algebra.Order.BigOperators.Group.List
import Mathlib.Algebra.Order.Ring.Nat

/-!
# Programs that make calls

A program returns, or makes a call and goes on with its answer. Nothing is known of what answers. A history
is the calls with their answers, the latest first.
-/

namespace NtsTimeServer.Lib

inductive Interaction (C : Type) (Answer : C → Type) (α : Type)
  | done (a : α)
  | call (c : C) (next : Answer c → Interaction C Answer α)

namespace Interaction

variable {C : Type} {Answer : C → Type} {α β : Type}

def andThen (next : α → Interaction C Answer β) : Interaction C Answer α → Interaction C Answer β
  | done a => next a
  | call c rest => call c fun answer => andThen next (rest answer)

instance : Monad (Interaction C Answer) where
  pure := done
  bind program next := andThen next program

abbrev ask (c : C) : Interaction C Answer (Answer c) := call c done

abbrev History (C : Type) (Answer : C → Type) := List (Sigma Answer)

/-- What answers the calls, by the calls before. -/
abbrev Surroundings (C : Type) (Answer : C → Type) := History C Answer → (c : C) → Answer c

def run (surroundings : Surroundings C Answer) :
    Interaction C Answer α → History C Answer → α × History C Answer
  | done a, past => (a, past)
  | call c next, past =>
      run surroundings (next (surroundings past c)) (⟨c, surroundings past c⟩ :: past)

/-- Every call is one that may be made after the history it is made after, and `post` holds at the end. -/
def Meets (may : History C Answer → C → Prop) (post : α → History C Answer → Prop) :
    Interaction C Answer α → History C Answer → Prop
  | done a, past => post a past
  | call c next, past => may past c ∧ ∀ answer, Meets may post (next answer) (⟨c, answer⟩ :: past)

def Justified (may : History C Answer → C → Prop) : History C Answer → Prop
  | [] => True
  | ⟨c, _⟩ :: past => may past c ∧ Justified may past

section
variable {may may' : History C Answer → C → Prop} {post : α → History C Answer → Prop}
  {past : History C Answer}

@[simp] theorem meets_pure (a : α) : (pure a : Interaction C Answer α).Meets may post past ↔ post a past :=
  Iff.rfl

@[simp] theorem meets_done (a : α) : (done a : Interaction C Answer α).Meets may post past ↔ post a past :=
  Iff.rfl

@[simp] theorem meets_call {c : C} {next : Answer c → Interaction C Answer α} :
    (call c next).Meets may post past ↔
      may past c ∧ ∀ answer, (next answer).Meets may post (⟨c, answer⟩ :: past) := Iff.rfl

@[simp] theorem meets_bind {program : Interaction C Answer β} {next : β → Interaction C Answer α} :
    (program >>= next).Meets may post past ↔
      program.Meets may (fun b later => (next b).Meets may post later) past := by
  induction program generalizing past with
  | done b => exact Iff.rfl
  | call c rest ih => exact and_congr_right fun _ => forall_congr' fun answer => ih answer

theorem Meets.mono {post' : α → History C Answer → Prop} {program : Interaction C Answer α}
    (meets : program.Meets may post past) (more : ∀ later c, may later c → may' later c)
    (weaker : ∀ a later, post a later → post' a later) : program.Meets may' post' past := by
  induction program generalizing past with
  | done a => exact weaker a past meets
  | call c next ih => exact ⟨more past c meets.1, fun answer => ih answer (meets.2 answer)⟩

theorem Meets.weaken {post' : α → History C Answer → Prop} {program : Interaction C Answer α}
    (meets : program.Meets may post past) (weaker : ∀ a later, post a later → post' a later) :
    program.Meets may post' past := meets.mono (fun _ _ may => may) weaker

theorem meets_congr {post' : α → History C Answer → Prop} {program : Interaction C Answer α}
    (same : ∀ a later, post a later ↔ post' a later) :
    program.Meets may post past ↔ program.Meets may post' past :=
  ⟨fun meets => meets.weaken fun a later => (same a later).mp,
    fun meets => meets.weaken fun a later => (same a later).mpr⟩

theorem Meets.and {post' : α → History C Answer → Prop} {program : Interaction C Answer α}
    (first : program.Meets may post past) (second : program.Meets may' post' past) :
    program.Meets (fun later c => may later c ∧ may' later c) (fun a later => post a later ∧ post' a later)
      past := by
  induction program generalizing past with
  | done a => exact ⟨first, second⟩
  | call c next ih => exact ⟨⟨first.1, second.1⟩, fun answer => ih answer (first.2 answer) (second.2 answer)⟩

theorem Justified.mono (justified : Justified may past) (more : ∀ later c, may later c → may' later c) :
    Justified may' past := by
  induction past with
  | nil => trivial
  | cons event past ih => exact ⟨more past event.1 justified.1, ih justified.2⟩

theorem Justified.of_append {recent : History C Answer} (justified : Justified may (recent ++ past)) :
    Justified may past := by
  induction recent with
  | nil => exact justified
  | cons event recent ih => exact ih justified.2

theorem meets_forall {ι : Type} [Nonempty ι] {post : ι → α → History C Answer → Prop}
    {program : Interaction C Answer α} (meets : ∀ i, program.Meets may (post i) past) :
    program.Meets may (fun a later => ∀ i, post i a later) past := by
  induction program generalizing past with
  | done a => exact meets
  | call c next ih =>
      exact ⟨(meets (Classical.arbitrary ι)).1, fun answer => ih answer fun i => (meets i).2 answer⟩

theorem Meets.stays {fact : History C Answer → Prop} {program : Interaction C Answer α}
    (stable : ∀ past c answer, may past c → fact past → fact (⟨c, answer⟩ :: past))
    (meets : program.Meets may post past) (holds : fact past) :
    program.Meets may (fun a later => post a later ∧ fact later) past := by
  induction program generalizing past with
  | done a => exact ⟨meets, holds⟩
  | call c next ih =>
      exact ⟨meets.1, fun answer => ih answer (meets.2 answer) (stable past c answer meets.1 holds)⟩

theorem Meets.extends {program : Interaction C Answer α} (meets : program.Meets may post past) :
    program.Meets may (fun a later => post a later ∧ past <:+ later) past :=
  meets.stays (fun _ _ _ _ held => held.trans (List.suffix_cons _ _)) List.suffix_rfl

theorem Meets.run {program : Interaction C Answer α} (meets : program.Meets may post past)
    (surroundings : Surroundings C Answer) (justified : Justified may past) :
    post (program.run surroundings past).1 (program.run surroundings past).2 ∧
      Justified may (program.run surroundings past).2 := by
  induction program generalizing past with
  | done a => exact ⟨meets, justified⟩
  | call c next ih => exact ih _ (meets.2 _) ⟨meets.1, justified⟩

end

def AnsweredBy (surroundings : Surroundings C Answer) : History C Answer → Prop
  | [] => True
  | ⟨c, answer⟩ :: past => answer = surroundings past c ∧ AnsweredBy surroundings past

theorem run_answeredBy (surroundings : Surroundings C Answer) (program : Interaction C Answer α)
    {past : History C Answer} (before : AnsweredBy surroundings past) :
    AnsweredBy surroundings (program.run surroundings past).2 := by
  induction program generalizing past with
  | done a => exact before
  | call c next ih => exact ih _ ⟨rfl, before⟩

theorem AnsweredBy.of_append {surroundings : Surroundings C Answer} {recent past : History C Answer}
    (answers : AnsweredBy surroundings (recent ++ past)) : AnsweredBy surroundings past := by
  induction recent with
  | nil => exact answers
  | cons event recent ih => exact ih answers.2

/-! ## Programs that may fail -/

abbrev Fallible (C : Type) (Answer : C → Type) (ε α : Type) := ExceptT ε (Interaction C Answer) α

section
variable {ε ε' : Type} {may : History C Answer → C → Prop} {past : History C Answer}

def refuseIf (condition : Prop) [Decidable condition] (err : ε) : Fallible C Answer ε Unit :=
  if condition then throw err else pure ()

def ofResult (result : Except ε α) : Fallible C Answer ε α := ExceptT.mk (pure result)

def ofOption (err : ε) (result : Option α) : Fallible C Answer ε α :=
  ExceptT.mk (pure (match result with | none => .error err | some a => .ok a))

def failing (err : ε → ε') (program : Fallible C Answer ε α) : Fallible C Answer ε' α :=
  ExceptT.adapt err program

def tried (program : Fallible C Answer ε α) : Fallible C Answer ε' (Except ε α) := ExceptT.lift program.run

/-- Every call is one that may be made; `post` holds of what is returned, and `fail` of a failure. -/
def Gives (may : History C Answer → C → Prop) (post : α → History C Answer → Prop)
    (fail : ε → History C Answer → Prop) (program : Fallible C Answer ε α) (past : History C Answer) : Prop :=
  program.run.Meets may (fun result later =>
    match result with
    | .ok a => post a later
    | .error err => fail err later) past

variable {post : α → History C Answer → Prop} {fail : ε → History C Answer → Prop}

@[simp] theorem gives_pure (a : α) :
    Gives may post fail (pure a : Fallible C Answer ε α) past ↔ post a past := Iff.rfl

@[simp] theorem gives_throw (err : ε) :
    Gives may post fail (throw err : Fallible C Answer ε α) past ↔ fail err past := Iff.rfl

@[simp] theorem gives_lift (program : Interaction C Answer α) :
    Gives may post fail (liftM program : Fallible C Answer ε α) past ↔ program.Meets may post past := by
  change (program >>= fun a => pure (Except.ok a)).Meets may _ past ↔ _
  rw [meets_bind]
  exact Iff.rfl

@[simp] theorem gives_bind {program : Fallible C Answer ε β} {next : β → Fallible C Answer ε α} :
    Gives may post fail (program >>= next) past ↔
      Gives may (fun b later => Gives may post fail (next b) later) fail program past := by
  rw [Gives, ExceptT.run_bind, meets_bind]
  refine meets_congr fun result later => ?_
  cases result with
  | error err => exact Iff.rfl
  | ok a => exact Iff.rfl

@[simp] theorem gives_refuseIf {condition : Prop} [Decidable condition] {err : ε}
    {post : Unit → History C Answer → Prop} :
    Gives may post fail (refuseIf condition err : Fallible C Answer ε Unit) past ↔
      (condition → fail err past) ∧ (¬condition → post () past) := by
  rw [refuseIf]
  split
  next holds => simp [holds]
  next fails => simp [fails]

@[simp] theorem gives_ofResult {result : Except ε α} :
    Gives may post fail (ofResult result : Fallible C Answer ε α) past ↔
      (∀ err, result = .error err → fail err past) ∧ ∀ a, result = .ok a → post a past := by
  cases result with
  | error err => simp [ofResult, Gives, ExceptT.run, ExceptT.mk]
  | ok a => simp [ofResult, Gives, ExceptT.run, ExceptT.mk]

@[simp] theorem gives_ofOption {err : ε} {result : Option α} :
    Gives may post fail (ofOption err result : Fallible C Answer ε α) past ↔
      (result = none → fail err past) ∧ ∀ a, result = some a → post a past := by
  cases result with
  | none => simp [ofOption, Gives, ExceptT.run, ExceptT.mk]
  | some a => simp [ofOption, Gives, ExceptT.run, ExceptT.mk]

@[simp] theorem gives_failing {err : ε → ε'} {program : Fallible C Answer ε α}
    {fail : ε' → History C Answer → Prop} :
    Gives may post fail (failing err program) past ↔
      Gives may post (fun failed later => fail (err failed) later) program past := by
  change (program.run >>= fun result => pure (result.mapError err)).Meets may _ past ↔ _
  rw [meets_bind, Gives]
  refine meets_congr fun result later => ?_
  cases result with
  | error err => exact Iff.rfl
  | ok a => exact Iff.rfl

@[simp] theorem gives_tried {program : Fallible C Answer ε α} {fail : ε' → History C Answer → Prop}
    {post : Except ε α → History C Answer → Prop} :
    Gives may post fail (tried program : Fallible C Answer ε' (Except ε α)) past ↔
      Gives may (fun a later => post (.ok a) later) (fun err later => post (.error err) later) program past := by
  refine (gives_lift program.run).trans ?_
  refine meets_congr fun result later => ?_
  cases result with
  | error err => exact Iff.rfl
  | ok a => exact Iff.rfl

theorem Gives.weaken {post' : α → History C Answer → Prop} {fail' : ε → History C Answer → Prop}
    {program : Fallible C Answer ε α} (gives : Gives may post fail program past)
    (weaker : ∀ a later, post a later → post' a later) (still : ∀ err later, fail err later → fail' err later) :
    Gives may post' fail' program past := by
  refine Meets.weaken gives ?_
  intro result later met
  cases result with
  | error err => exact still err later met
  | ok a => exact weaker a later met

theorem Gives.and {may' : History C Answer → C → Prop} {post' : α → History C Answer → Prop}
    {fail' : ε → History C Answer → Prop} {program : Fallible C Answer ε α}
    (first : Gives may post fail program past) (second : Gives may' post' fail' program past) :
    Gives may (fun a later => post a later ∧ post' a later) (fun err later => fail err later ∧ fail' err later)
      program past := by
  refine (Meets.and first second).mono (fun _ _ may => may.1) ?_
  intro result later met
  cases result with
  | error err => exact met
  | ok a => exact met

theorem Gives.extends {program : Fallible C Answer ε α} (gives : Gives may post fail program past) :
    Gives may (fun a later => post a later ∧ past <:+ later) (fun err later => fail err later ∧ past <:+ later)
      program past := by
  refine (Meets.extends gives).weaken ?_
  intro result later met
  cases result with
  | error err => exact met
  | ok a => exact met

-- an application of a lemma about a long program must not start to run it
attribute [irreducible] Gives

end

/-! ## What the calls cost -/

def spent (weight : C → Nat) (past : History C Answer) : Nat := (past.map fun event => weight event.1).sum

theorem spent_append (weight : C → Nat) (recent past : History C Answer) :
    spent weight (recent ++ past) = spent weight recent + spent weight past := by
  simp [spent]

theorem le_spent {weight : C → Nat} {past : History C Answer} {event : Sigma Answer} (member : event ∈ past) :
    weight event.1 ≤ spent weight past :=
  List.single_le_sum (by simp) _ (List.mem_map_of_mem member)

/-- Whatever the answers, the calls cost no more than the budget; what is returned is of the one kind, and
a failure of the other. -/
def Spends {ε : Type} (weight : C → Nat) (budget : Nat) (post : α → Prop) (fail : ε → Prop)
    (program : Fallible C Answer ε α) : Prop :=
  ∀ past, Gives (fun _ _ => True) (fun a later => post a ∧ spent weight later ≤ spent weight past + budget)
    (fun err later => fail err ∧ spent weight later ≤ spent weight past + budget) program past

section
variable {ε ε' : Type} {weight : C → Nat} {budget more : Nat} {post : α → Prop} {fail : ε → Prop}

theorem Spends.bind {program : Fallible C Answer ε α} {next : α → Fallible C Answer ε β} {post' : β → Prop}
    (first : Spends weight budget post fail program)
    (second : ∀ a, post a → Spends weight more post' fail (next a)) :
    Spends weight (budget + more) post' fail (program >>= next) := by
  intro past
  rw [gives_bind]
  refine (first past).weaken ?_ ?_
  · rintro a later ⟨holds, paid⟩
    refine (second a holds later).weaken ?_ ?_
    · exact fun b last met => ⟨met.1, by omega⟩
    · exact fun err last met => ⟨met.1, by omega⟩
  · exact fun err later met => ⟨met.1, by omega⟩

theorem Spends.mono {program : Fallible C Answer ε α} {post' : α → Prop}
    (spends : Spends weight budget post fail program) (enough : budget ≤ more)
    (weaker : ∀ a, post a → post' a) : Spends weight more post' fail program := by
  intro past
  refine (spends past).weaken ?_ ?_
  · exact fun a later met => ⟨weaker a met.1, by omega⟩
  · exact fun err later met => ⟨met.1, by omega⟩

theorem Spends.within {program : Fallible C Answer ε α} (spends : Spends weight budget post fail program)
    (enough : budget ≤ more) : Spends weight more post fail program :=
  spends.mono enough fun _ holds => holds

theorem Spends.still {program : Fallible C Answer ε α} {fail' : ε → Prop}
    (spends : Spends weight budget post fail program) (weaker : ∀ err, fail err → fail' err) :
    Spends weight budget post fail' program :=
  fun past => (spends past).weaken (fun _ _ met => met) fun err _ met => ⟨weaker err met.1, met.2⟩

theorem spends_pure {a : α} (holds : post a) :
    Spends weight 0 post fail (pure a : Fallible C Answer ε α) := by
  intro past
  simp [holds]

theorem spends_throw {err : ε} (fails : fail err) :
    Spends weight 0 post fail (throw err : Fallible C Answer ε α) := by
  intro past
  simp [fails]

theorem spends_ask (c : C) :
    Spends weight (weight c) (fun _ => True) fail (liftM (ask c) : Fallible C Answer ε (Answer c)) := by
  intro past
  simp [spent, Nat.add_comm]

theorem spends_refuseIf {condition : Prop} [Decidable condition] {err : ε} (refused : condition → fail err) :
    Spends weight 0 (fun _ => ¬condition) fail (refuseIf condition err : Fallible C Answer ε Unit) := by
  intro past
  simpa using refused

theorem spends_ofResult {result : Except ε α} (refused : ∀ err, result = .error err → fail err) :
    Spends weight 0 (fun a => result = .ok a) fail (ofResult result : Fallible C Answer ε α) := by
  intro past
  simpa using refused

theorem spends_ofOption {err : ε} {result : Option α} (refused : fail err) :
    Spends weight 0 (fun a => result = some a) fail (ofOption err result : Fallible C Answer ε α) := by
  intro past
  simp [refused]

theorem Spends.failing {err : ε → ε'} {fail : ε' → Prop} {program : Fallible C Answer ε α}
    (spends : Spends weight budget post (fun failed => fail (err failed)) program) :
    Spends weight budget post fail (failing err program) := by
  intro past
  rw [gives_failing]
  exact spends past

theorem Spends.tried {fail' : ε' → Prop} {program : Fallible C Answer ε α}
    (spends : Spends weight budget post fail program) :
    Spends weight budget (Except.rec fail post) fail' (tried program : Fallible C Answer ε' (Except ε α)) := by
  intro past
  rw [gives_tried]
  exact spends past

theorem Spends.ite {condition : Prop} [Decidable condition] {program other : Fallible C Answer ε α}
    (first : condition → Spends weight budget post fail program)
    (second : ¬condition → Spends weight budget post fail other) :
    Spends weight budget post fail (if condition then program else other) := by
  split
  next holds => exact first holds
  next fails => exact second fails

theorem Spends.gives {ι : Type} {weight : ι → C → Nat} {budget : ι → Nat} [Nonempty ι]
    {may : History C Answer → C → Prop} {past : History C Answer} {kept : α → History C Answer → Prop}
    {failed : ε → History C Answer → Prop} {program : Fallible C Answer ε α}
    (spends : ∀ i, Spends (weight i) (budget i) post fail program) (gives : Gives may kept failed program past) :
    Gives may (fun a later => (kept a later ∧ past <:+ later) ∧
        ∀ i, spent (weight i) later ≤ spent (weight i) past + budget i)
      (fun err later => ((failed err later ∧ past <:+ later) ∧ fail err) ∧
        ∀ i, spent (weight i) later ≤ spent (weight i) past + budget i) program past := by
  have within (i : ι) := spends i past
  unfold Gives at within
  have all := meets_forall within
  have both := gives.extends
  unfold Gives at both
  unfold Gives
  refine (both.and all).mono (fun _ _ may => may.1) ?_
  intro result later met
  cases result with
  | error err => exact ⟨⟨met.1, (met.2 (Classical.arbitrary ι)).1⟩, fun i => (met.2 i).2⟩
  | ok a => exact ⟨met.1, fun i => (met.2 i).2⟩

end

end Interaction

end NtsTimeServer.Lib
