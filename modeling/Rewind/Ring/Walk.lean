import Rewind.Ring.Basic

/-! Walks: traversals of a ring from both ends, which hand out each element once. -/
namespace Rewind.Ring

variable {α : Type}

/-- The elements from place `front` on and before place `back` are still to come. -/
structure Walk (α : Type) where
  ring : Ring α
  front : Nat
  back : Nat

/-- A walk over all elements but the `skipped` oldest. -/
def walkFrom (r : Ring α) (skipped : Nat) : Walk α := ⟨r, skipped, r.size⟩

namespace Walk

def remaining (w : Walk α) : Nat := w.back - w.front

def takeOldest (w : Walk α) : Option α × Walk α :=
  if w.front < w.back then (w.ring.get? w.front, { w with front := w.front + 1 }) else (none, w)

def takeNewest (w : Walk α) : Option α × Walk α :=
  if w.front < w.back then (w.ring.get? (w.back - 1), { w with back := w.back - 1 }) else (none, w)

inductive Call where
  | takeOldest
  | takeNewest
  | length
  | lengthBounds
  deriving DecidableEq, Repr

inductive Answer (α : Type) where
  | item (x : Option α)
  | length (n : Nat)
  | lengthBounds (low high : Nat)

def answer (w : Walk α) : Call → Answer α × Walk α
  | .takeOldest => (.item w.takeOldest.1, w.takeOldest.2)
  | .takeNewest => (.item w.takeNewest.1, w.takeNewest.2)
  | .length => (.length w.remaining, w)
  | .lengthBounds => (.lengthBounds w.remaining w.remaining, w)

def answers (w : Walk α) : List Call → List (Answer α)
  | [] => []
  | c :: cs => (w.answer c).1 :: (w.answer c).2.answers cs

end Walk

end Rewind.Ring
