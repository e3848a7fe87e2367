/-! Sets of state numbers, one bit each. -/
namespace Rewind

structure StateSet where
  bits : Nat
  deriving DecidableEq, Repr

namespace StateSet

def empty : StateSet := ⟨0⟩

def contains (s : StateSet) (i : Nat) : Bool := s.bits.testBit i

def insert (s : StateSet) (i : Nat) : StateSet := ⟨s.bits ||| 1 <<< i⟩

theorem contains_empty (i : Nat) : empty.contains i = false := by simp [empty, contains]

theorem contains_insert (s : StateSet) (i j : Nat) :
    (s.insert i).contains j = (s.contains j || decide (i = j)) := by
  simp [insert, contains, Nat.testBit_or, Nat.testBit_shiftLeft]
  by_cases h : i = j
  · simp [h]
  · by_cases hle : i ≤ j
    · have : j - i ≠ 0 := by omega
      simp [h, Nat.testBit_one_eq_true_iff_self_eq_zero, this]
    · simp [h, hle]

end StateSet

end Rewind
