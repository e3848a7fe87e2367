/-! Sets of characters as sorted lists of code ranges. Ranges are inclusive, disjoint and never
adjacent, and no range holds a surrogate, so equal sets have equal lists. -/
namespace Rewind

structure CharSet where
  ranges : List (Nat × Nat)
  deriving DecidableEq, Repr

namespace CharSet

/-- Whether the code `n` lies in one of the ranges. -/
def holds (s : CharSet) (n : Nat) : Bool :=
  s.ranges.any fun r => r.1.ble n && n.ble r.2

def contains (s : CharSet) (c : Char) : Bool := s.holds c.toNat

def empty : CharSet := ⟨[]⟩

def all : CharSet := ⟨[(0x0, 0xD7FF), (0xE000, 0x10FFFF)]⟩

def isEmpty (s : CharSet) : Bool := s.ranges.isEmpty

/-- Adds a range to a sorted list, joining it with the ranges that it meets or touches. -/
def insertRange (lo hi : Nat) : List (Nat × Nat) → List (Nat × Nat)
  | [] => [(lo, hi)]
  | (a, b) :: r =>
    if hi + 1 < a then (lo, hi) :: (a, b) :: r
    else if b + 1 < lo then (a, b) :: insertRange lo hi r
    else insertRange (min a lo) (max b hi) r

def insert (s : CharSet) (lo hi : Nat) : CharSet := ⟨insertRange lo hi s.ranges⟩

def union (s t : CharSet) : CharSet :=
  ⟨t.ranges.foldr (fun r rs => insertRange r.1 r.2 rs) s.ranges⟩

theorem holds_insertRange (lo hi n : Nat) (rs : List (Nat × Nat)) :
    holds ⟨insertRange lo hi rs⟩ n = (lo.ble n && n.ble hi || holds ⟨rs⟩ n) := by
  induction rs generalizing lo hi with
  | nil => rfl
  | cons r rs ih =>
    obtain ⟨a, b⟩ := r
    have hcons : holds ⟨(a, b) :: rs⟩ n = (a.ble n && n.ble b || holds ⟨rs⟩ n) := rfl
    rw [insertRange, hcons]
    split
    · rfl
    · split
      · show (a.ble n && n.ble b || holds ⟨insertRange lo hi rs⟩ n) = _
        rw [ih, Bool.or_left_comm]
      · -- ranges that meet or touch leave nothing out between them
        rw [ih, ← Bool.or_assoc]
        congr 1
        rw [Bool.eq_iff_iff]
        simp only [Bool.or_eq_true, Bool.and_eq_true, Nat.ble_eq]
        omega

/-- A union has the characters of both sets. -/
theorem contains_union (s t : CharSet) (c : Char) :
    (s.union t).contains c = (s.contains c || t.contains c) := by
  obtain ⟨rs⟩ := t
  simp only [contains, union]
  induction rs with
  | nil => exact (Bool.or_false _).symm
  | cons r rs ih =>
    rw [List.foldr_cons, holds_insertRange, ih]
    exact Bool.or_left_comm ..

/-- What two ranges have in common. -/
def overlap? (p q : Nat × Nat) : Option (Nat × Nat) :=
  if max p.1 q.1 ≤ min p.2 q.2 then some (max p.1 q.1, min p.2 q.2) else none

def inter (s t : CharSet) : CharSet :=
  ⟨s.ranges.flatMap fun p => t.ranges.filterMap (overlap? p)⟩

/-- The codes from `next` on that a sorted list leaves out. -/
def gaps (next : Nat) : List (Nat × Nat) → List (Nat × Nat)
  | [] => if next ≤ 0x10FFFF then [(next, 0x10FFFF)] else []
  | (a, b) :: r => if next < a then (next, a - 1) :: gaps (b + 1) r else gaps (b + 1) r

def compl (s : CharSet) : CharSet := inter all ⟨gaps 0 s.ranges⟩

def diff (s t : CharSet) : CharSet := inter s t.compl

def symmDiff (s t : CharSet) : CharSet := union (diff s t) (diff t s)

def ofRange (lo hi : Char) : CharSet := inter all ⟨[(lo.toNat, hi.toNat)]⟩

def singleton (c : Char) : CharSet := ⟨[(c.toNat, c.toNat)]⟩

/-- A set of one character has that character. -/
theorem contains_singleton (c d : Char) : (singleton d).contains c = decide (c = d) := by
  rw [Bool.eq_iff_iff, decide_eq_true_iff, ← Char.toNat_inj]
  simp only [contains, holds, singleton, List.any_cons, List.any_nil, Bool.or_false,
    Bool.and_eq_true, Nat.ble_eq]
  omega

def ofList (cs : List Char) : CharSet :=
  cs.foldl (fun s c => s.insert c.toNat c.toNat) empty

def single? (s : CharSet) : Option Char :=
  match s.ranges with
  | [(a, b)] => if a = b then some (Char.ofNat a) else none
  | _ => none

def isAscii (s : CharSet) : Bool := s.ranges.all fun r => decide (r.2 < 0x80)

def ascii : CharSet := ⟨[(0x0, 0x7F)]⟩

end CharSet

end Rewind
