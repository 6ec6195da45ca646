import NtsTimeServer.Lib.Bytes

/-!
# Bounded buffers

Copies that fault outside a buffer, for functions that may also return an error.
-/

namespace NtsTimeServer.Lib

/-- Why a function stops: an access outside a buffer, or an error it returns. -/
inductive Halt (ε : Type)
  | fault
  | error (err : ε)
  deriving DecidableEq, Repr

variable {ε : Type}

def memcpy (target : Bytes) (offset : Nat) (source : Bytes) (count : Nat) :
    Except (Halt ε) Bytes :=
  if source.length < count ∨ target.length < offset + count then .error .fault
  else .ok (writeAt target offset (source.take count))

def memsetZero (target : Bytes) (count : Nat) : Except (Halt ε) Bytes :=
  if target.length < count then .error .fault else .ok (zeroFirst target count)

def loadBe (count : Nat) (buffer : Bytes) (offset : Nat) : Except (Halt ε) Nat :=
  if buffer.length < offset + count then .error .fault else .ok (readBe count buffer offset)

def loadByte (buffer : Bytes) (offset : Nat) : Except (Halt ε) Nat :=
  if buffer.length ≤ offset then .error .fault else .ok (byteAt buffer offset)

@[simp] theorem ok_bind {α β : Type} (a : α) (f : α → Except (Halt ε) β) : (.ok a >>= f) = f a := rfl

theorem fault_of_bind {α β : Type} {p : Except (Halt ε) α} {f : α → Except (Halt ε) β} {halt : Halt ε}
    (first : p = .error halt → halt = .fault) (rest : ∀ a, f a = .error halt → halt = .fault)
    (failed : (p >>= f) = .error halt) : halt = .fault := by
  cases p with
  | error stopped =>
      cases failed
      exact first rfl
  | ok a => exact rest a failed

@[simp] theorem error_bind {α β : Type} (halt : Halt ε) (f : α → Except (Halt ε) β) :
    ((.error halt : Except (Halt ε) α) >>= f) = .error halt := rfl

theorem loadBe_ok {count offset : Nat} {buffer : Bytes} (within : offset + count ≤ buffer.length) :
    loadBe count buffer offset = (.ok (readBe count buffer offset) : Except (Halt ε) Nat) :=
  if_neg (by omega)

theorem loadByte_ok {offset : Nat} {buffer : Bytes} (within : offset < buffer.length) :
    loadByte buffer offset = (.ok (byteAt buffer offset) : Except (Halt ε) Nat) :=
  if_neg (by omega)

theorem memcpy_ok {target source : Bytes} {offset count : Nat} (reads : count ≤ source.length)
    (writes : offset + count ≤ target.length) :
    memcpy target offset source count = (.ok (writeAt target offset (source.take count)) :
      Except (Halt ε) Bytes) := if_neg (by omega)

theorem memcpy_all {target source : Bytes} {offset count : Nat} (length : source.length = count)
    (writes : offset + count ≤ target.length) :
    memcpy target offset source count = (.ok (writeAt target offset source) :
      Except (Halt ε) Bytes) := by
  subst length
  rw [memcpy_ok le_rfl writes, List.take_length]

theorem memsetZero_ok {target : Bytes} {count : Nat} (writes : count ≤ target.length) :
    memsetZero target count = (.ok (zeroFirst target count) : Except (Halt ε) Bytes) :=
  if_neg (by omega)

theorem writeAt_length {buffer data : Bytes} {offset : Nat}
    (within : offset + data.length ≤ buffer.length) :
    (writeAt buffer offset data).length = buffer.length := by
  simp only [writeAt, List.length_append, List.length_take, List.length_drop]
  omega

theorem take_writeAt_before {buffer : Bytes} (data : Bytes) {offset : Nat}
    (within : offset ≤ buffer.length) :
    (writeAt buffer offset data).take offset = buffer.take offset := by
  rw [writeAt, List.append_assoc]
  exact List.take_left' (by rw [List.length_take, min_eq_left within])

theorem take_writeAt {buffer data : Bytes} {offset : Nat} (within : offset ≤ buffer.length) :
    (writeAt buffer offset data).take (offset + data.length) = buffer.take offset ++ data := by
  refine List.take_left' ?_
  rw [List.length_append, List.length_take, min_eq_left within]

theorem drop_writeAt {buffer data : Bytes} {offset : Nat} (within : offset ≤ buffer.length) :
    (writeAt buffer offset data).drop (offset + data.length) = buffer.drop (offset + data.length) := by
  refine List.drop_left' ?_
  rw [List.length_append, List.length_take, min_eq_left within]

theorem writeAt_writeAt {buffer first second : Bytes} {offset next : Nat}
    (within : offset ≤ buffer.length) (ended : next = offset + first.length) :
    writeAt (writeAt buffer offset first) next second = writeAt buffer offset (first ++ second) := by
  subst ended
  have rest : (writeAt buffer offset first).drop (offset + first.length + second.length) =
      buffer.drop (offset + first.length + second.length) := by
    rw [← List.drop_drop, drop_writeAt within, List.drop_drop]
  rw [writeAt, take_writeAt within, rest, writeAt, List.length_append, Nat.add_assoc, List.append_assoc,
    List.append_assoc, List.append_assoc, List.append_assoc]

/-! ## Programs that return -/

variable {α β : Type}

def Succeeds (program : Except (Halt ε) α) (post : α → Prop) : Prop := ∃ a, program = .ok a ∧ post a

theorem succeeds_ok {post : α → Prop} {a : α} (holds : post a) :
    Succeeds (.ok a : Except (Halt ε) α) post := ⟨a, rfl, holds⟩

theorem Succeeds.bind {program : Except (Halt ε) α} {rest : α → Except (Halt ε) β} {mid : α → Prop}
    {post : β → Prop} (first : Succeeds program mid) (second : ∀ a, mid a → Succeeds (rest a) post) :
    Succeeds (program >>= rest) post := by
  obtain ⟨a, run, holds⟩ := first
  rw [run, ok_bind]
  exact second a holds

theorem Succeeds.mono {program : Except (Halt ε) α} {mid post : α → Prop} (first : Succeeds program mid)
    (weaker : ∀ a, mid a → post a) : Succeeds program post := by
  obtain ⟨a, run, holds⟩ := first
  exact ⟨a, run, weaker a holds⟩

theorem memcpy_append {target source data : Bytes} {offset count : Nat} (held : data <+: target)
    (ended : offset = data.length) (reads : count ≤ source.length)
    (writes : data.length + count ≤ target.length) :
    Succeeds (memcpy target offset source count : Except (Halt ε) Bytes) fun out =>
      out.length = target.length ∧ data ++ source.take count <+: out := by
  subst ended
  have part : (source.take count).length = count := by rw [List.length_take, min_eq_left reads]
  refine ⟨_, memcpy_ok reads writes, writeAt_length (by rw [part]; exact writes), ?_⟩
  rw [writeAt, List.prefix_iff_eq_take.mp held, List.length_take_of_le held.length_le]
  exact List.prefix_append _ _

end NtsTimeServer.Lib
