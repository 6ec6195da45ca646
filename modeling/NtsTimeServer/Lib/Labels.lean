import Mathlib.Data.List.Basic

/-!
# Names of labels

A name is cut into labels at its separators. A label has a bounded length, allowed characters only, and no
hyphen at either end. A scanner knows how much of a label it has read.
-/

namespace NtsTimeServer.Lib

structure LabelGrammar (α : Type*) where
  separator : α
  hyphen : α
  allowed : α → Prop
  limit : Nat
  separated : ¬allowed separator

namespace LabelGrammar

variable {α : Type*} {grammar : LabelGrammar α} {label rest name : List α} {c : α}

/-- What a label may start with, whatever its length. -/
structure Scanned (grammar : LabelGrammar α) (label : List α) : Prop where
  characters : ∀ c ∈ label, grammar.allowed c
  first : label.head? ≠ some grammar.hyphen

structure IsLabel (grammar : LabelGrammar α) (label : List α) : Prop extends Scanned grammar label where
  nonempty : label ≠ []
  length : label.length ≤ grammar.limit
  last : label.getLast? ≠ some grammar.hyphen

theorem scanned_nil : grammar.Scanned [] := ⟨nofun, nofun⟩

theorem Scanned.separator_not_mem (scanned : grammar.Scanned label) : grammar.separator ∉ label :=
  fun member => grammar.separated (scanned.characters _ member)

theorem scanned_of_append (scanned : grammar.Scanned (label ++ rest)) : grammar.Scanned label where
  characters c member := scanned.characters c (List.mem_append_left _ member)
  first head := scanned.first (by rw [List.head?_append, head, Option.some_or])

theorem scanned_snoc : grammar.Scanned (label ++ [c]) ↔
    grammar.Scanned label ∧ grammar.allowed c ∧ (label = [] → c ≠ grammar.hyphen) := by
  constructor
  · intro scanned
    refine ⟨scanned_of_append scanned,
      scanned.characters c (List.mem_append_right _ List.mem_cons_self), ?_⟩
    rintro rfl rfl
    exact scanned.first rfl
  · rintro ⟨scanned, allowed, first⟩
    constructor
    · exact List.forall_mem_append.mpr ⟨scanned.characters, List.forall_mem_singleton.mpr allowed⟩
    · cases label with
      | nil => simpa using first rfl
      | cons d label => exact scanned.first

theorem isLabel_iff (scanned : grammar.Scanned label) : grammar.IsLabel label ↔
    0 < label.length ∧ label.length ≤ grammar.limit ∧ label.getLast? ≠ some grammar.hyphen :=
  ⟨fun whole => ⟨List.length_pos_iff.mpr whole.nonempty, whole.length, whole.last⟩,
    fun ⟨nonempty, length, last⟩ => ⟨scanned, List.length_pos_iff.mp nonempty, length, last⟩⟩

theorem not_isLabel_nil : ¬grammar.IsLabel [] := fun label => label.nonempty rfl

structure SameRole {β : Type*} (grammar : LabelGrammar α) (other : LabelGrammar β) (f : α → β) : Prop where
  separator : ∀ c, f c = other.separator ↔ c = grammar.separator
  hyphen : ∀ c, f c = other.hyphen ↔ c = grammar.hyphen
  allowed : ∀ c, other.allowed (f c) ↔ grammar.allowed c
  limit : other.limit = grammar.limit

theorem isLabel_map {β : Type*} {other : LabelGrammar β} {f : α → β} (same : SameRole grammar other f) :
    other.IsLabel (label.map f) ↔ grammar.IsLabel label := by
  have ends (edge : Option α) : edge.map f ≠ some other.hyphen ↔ edge ≠ some grammar.hyphen := by
    cases edge <;> simp [same.hyphen]
  have head := ends label.head?
  have last := ends label.getLast?
  rw [← List.head?_map] at head
  rw [← List.getLast?_map] at last
  have characters : (∀ c ∈ label.map f, other.allowed c) ↔ ∀ c ∈ label, grammar.allowed c := by
    simp [same.allowed]
  constructor
  · intro whole
    exact ⟨⟨characters.mp whole.characters, head.mp whole.first⟩, by simpa using whole.nonempty,
      by simpa [same.limit] using whole.length, last.mp whole.last⟩
  · intro whole
    exact ⟨⟨characters.mpr whole.characters, head.mpr whole.first⟩, by simpa using whole.nonempty,
      by simpa [same.limit] using whole.length, last.mpr whole.last⟩

/-! ## Names -/

variable [DecidableEq α]

def Labelled (grammar : LabelGrammar α) (name : List α) : Prop :=
  ∀ label ∈ name.splitOn grammar.separator, grammar.IsLabel label

theorem labelled_end (free : grammar.separator ∉ label) :
    grammar.Labelled label ↔ grammar.IsLabel label := by
  rw [Labelled, List.splitOn_eq_singleton free, List.forall_mem_singleton]

theorem labelled_separator (free : grammar.separator ∉ label) :
    grammar.Labelled (label ++ grammar.separator :: rest) ↔
      grammar.IsLabel label ∧ grammar.Labelled rest := by
  rw [Labelled, List.splitOn_append_cons_of_beq _ _ (beq_self_eq_true _),
    List.splitOn_eq_singleton free, List.singleton_append, List.forall_mem_cons, Labelled]

theorem Labelled.started (labelled : grammar.Labelled (label ++ rest))
    (free : grammar.separator ∉ label) : grammar.Scanned label ∧ label.length ≤ grammar.limit := by
  have part {more : List α} (whole : grammar.IsLabel (label ++ more)) :
      grammar.Scanned label ∧ label.length ≤ grammar.limit := by
    have length := whole.length
    rw [List.length_append] at length
    exact ⟨scanned_of_append whole.toScanned, by omega⟩
  by_cases member : grammar.separator ∈ rest
  · obtain ⟨more, tail, rfl, first⟩ := List.eq_append_cons_of_mem member
    rw [← List.append_assoc, labelled_separator (by simp [free, first])] at labelled
    exact part labelled.1
  · exact part ((labelled_end (by simp [free, member])).mp labelled)

theorem Labelled.next (labelled : grammar.Labelled (label ++ c :: rest))
    (free : grammar.separator ∉ label) (inside : c ≠ grammar.separator) :
    grammar.Scanned (label ++ [c]) ∧ label.length + 1 ≤ grammar.limit := by
  rw [List.append_cons] at labelled
  have started := labelled.started (by simp [free, inside.symm])
  rwa [List.length_append] at started

theorem Labelled.head (labelled : grammar.Labelled name) : name.head? ≠ some grammar.separator := by
  intro head
  obtain ⟨rest, rfl⟩ := List.head?_eq_some_iff.mp head
  rw [← List.nil_append (grammar.separator :: rest), labelled_separator List.not_mem_nil] at labelled
  exact not_isLabel_nil labelled.1

theorem Labelled.getLast (labelled : grammar.Labelled name) : name.getLast? ≠ some grammar.separator := by
  intro last
  obtain ⟨front, rfl⟩ := List.getLast?_eq_some_iff.mp last
  refine not_isLabel_nil (labelled [] ?_)
  rw [List.splitOn_append_cons_of_beq _ _ (beq_self_eq_true _)]
  simp

/-- A loop that has scanned `label` and has `rest` to read; what it takes of an unfinished label may leave
the length to the end. -/
theorem scan_iff (loop : List α → List α → Prop) (takes : List α → Prop)
    (ended : ∀ label, grammar.Scanned label → (loop label [] ↔ grammar.IsLabel label))
    (separator : ∀ label rest, grammar.Scanned label →
      (loop label (grammar.separator :: rest) ↔ grammar.IsLabel label ∧ loop [] rest))
    (character : ∀ label c rest, grammar.Scanned label → c ≠ grammar.separator →
      (loop label (c :: rest) ↔ takes (label ++ [c]) ∧ loop (label ++ [c]) rest))
    (taken : ∀ label c, grammar.Scanned label → takes (label ++ [c]) → grammar.Scanned (label ++ [c]))
    (takes_of : ∀ label, grammar.Scanned label → label.length ≤ grammar.limit → takes label)
    {label : List α} (scanned : grammar.Scanned label) (rest : List α) :
    loop label rest ↔ grammar.Labelled (label ++ rest) := by
  have free := @Scanned.separator_not_mem α grammar
  induction rest generalizing label with
  | nil => rw [List.append_nil, labelled_end (free scanned), ended label scanned]
  | cons c rest ih =>
      by_cases inside : c = grammar.separator
      · have rest_iff := ih scanned_nil
        rw [List.nil_append] at rest_iff
        rw [inside, separator label rest scanned, labelled_separator (free scanned)]
        exact and_congr_right fun _ => rest_iff
      · have read : label ++ c :: rest = label ++ [c] ++ rest := List.append_cons ..
        rw [character label c rest scanned inside]
        constructor
        · rintro ⟨accepted, goes⟩
          rw [read]
          exact (ih (taken label c scanned accepted)).mp goes
        · intro labelled
          obtain ⟨next, length⟩ := labelled.next (free scanned) inside
          rw [read] at labelled
          exact ⟨takes_of _ next (by simpa using length), (ih next).mpr labelled⟩

theorem splitOn_map {β : Type*} [DecidableEq β] {f : α → β} {a : α} {b : β}
    (same : ∀ c, f c = b ↔ c = a) (name : List α) :
    (name.map f).splitOn b = (name.splitOn a).map (List.map f) := by
  induction name with
  | nil => rfl
  | cons c rest ih =>
      rw [List.map_cons, List.splitOn_cons_eq_if_modifyHead, List.splitOn_cons_eq_if_modifyHead, ih]
      by_cases here : c = a
      · simp [here, (same a).mpr rfl]
      · have there : ¬f c = b := fun eq => here ((same c).mp eq)
        simp only [beq_iff_eq, here, there, if_false]
        cases rest.splitOn a <;> simp

theorem labelled_map {β : Type*} [DecidableEq β] {other : LabelGrammar β} {f : α → β}
    (same : SameRole grammar other f) : other.Labelled (name.map f) ↔ grammar.Labelled name := by
  rw [Labelled, splitOn_map same.separator, List.forall_mem_map]
  exact forall₂_congr fun _ _ => isLabel_map same

end LabelGrammar

end NtsTimeServer.Lib
