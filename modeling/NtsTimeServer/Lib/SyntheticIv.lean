import Mathlib.Logic.Basic

/-!
# Authenticated encryption with a synthetic initialization vector

A message is tagged first and then encrypted under the tag, so that the tag serves as the
initialization vector. Opening decrypts under the received tag and accepts if tagging the result
gives that tag back.
-/

namespace NtsTimeServer.Lib

variable {Message Tag : Type*} [DecidableEq Tag] (tag : Message → Tag) (crypt : Tag → Message → Message)

omit [DecidableEq Tag] in
def sivSeal (message : Message) : Tag × Message := (tag message, crypt (tag message) message)

def sivOpen (received : Tag × Message) : Option Message :=
  let message := crypt received.1 received.2
  if received.1 = tag message then some message else none

variable {tag crypt}

theorem sivOpen_eq_some (involutive : ∀ iv message, crypt iv (crypt iv message) = message)
    {received : Tag × Message} {message : Message} :
    sivOpen tag crypt received = some message ↔ received = sivSeal tag crypt message := by
  obtain ⟨iv, encrypted⟩ := received
  constructor
  · intro opened
    simp only [sivOpen] at opened
    split at opened
    · rename_i authentic
      obtain rfl := Option.some.inj opened
      rw [sivSeal, ← authentic, involutive]
    · cases opened
  · intro sealed
    obtain ⟨rfl, rfl⟩ := Prod.mk.inj sealed
    simp [sivOpen, involutive]

end NtsTimeServer.Lib
