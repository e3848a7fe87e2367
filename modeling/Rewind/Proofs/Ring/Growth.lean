import Rewind.Proofs.Ring.Layout

/-! Making room step by step. A full ring is replaced by a new one of twice the slots, into which its
elements are moved one at a time. Each step could fail: the new bound may be too large, and the new
ring may turn an element away. For a tidy ring below the largest bound none of them does, and what
comes out is the doubled ring with the element added to it (`Tidy.store_of_full`). -/
namespace Rewind.Ring

variable {α : Type}

theorem size_lt_of_pop? {r t : Ring α} {x : α} (h : r.pop? = some (x, t)) : t.size < r.size := by
  obtain ⟨y, hy, he⟩ := Option.map_eq_some_iff.mp h
  have hpos : 0 < r.size := by
    rw [get?_eq] at hy
    split at hy
    · assumption
    · cases hy
  cases he
  show r.size - min 1 r.size < r.size
  omega

/-- Moves elements from a ring to another, oldest first, until one is turned away. -/
def pour (r s : Ring α) : Except (Full α) (Ring α) :=
  match _h : r.pop? with
  | none => .ok s
  | some (x, t) =>
    match s.push x with
    | .ok u => t.pour u
    | .error e => .error e
termination_by r.size
decreasing_by exact size_lt_of_pop? _h

/-- What could stand in the way of one more element. -/
inductive Obstacle (α : Type) where
  | bound (e : BoundError)
  | full (e : Full α)

/-- Adds an element, first going over to a ring of twice the slots if no slot is free. -/
def store (r : Ring α) (x : α) : Except (Obstacle α) (Ring α) :=
  match r.push x with
  | .ok s => .ok s
  | .error e => do
    let fresh ← (create (r.bound + 1)).mapError .bound
    let grown ← (r.pour fresh).mapError .full
    (grown.push e.rejected).mapError .full

/-! ## No step fails -/

theorem pour_of_nil {r : Ring α} (s : Ring α) (h : r.pop? = none) : r.pour s = .ok s := by
  unfold pour
  split
  · rfl
  · next hsome => rw [h] at hsome; cases hsome

theorem pour_of_cons {r s t : Ring α} {x : α} (h : r.pop? = some (x, t))
    (hroom : s.size < slotCount s.bound) : r.pour s = t.pour (s.put x hroom) := by
  rw [pour]
  split
  · next hnone => rw [h] at hnone; cases hnone
  · next hsome =>
    rw [h] at hsome
    cases hsome
    simp only [push, dif_pos hroom]

/-- All elements find their place behind those that are there. -/
theorem Tidy.pour_eq {r s : Ring α} (hr : r.Tidy) (hs : s.Tidy)
    (hroom : s.size + r.size ≤ slotCount s.bound) :
    ∃ t, r.pour s = .ok t ∧ t.Tidy ∧ t.bound = s.bound ∧ t.head = s.head ∧
      t.toList = s.toList ++ r.toList := by
  have hlen := hr.length_toList
  have hpop := hr.pop?_eq
  cases hl : r.toList with
  | nil =>
    rw [hl] at hpop
    exact ⟨s, pour_of_nil s hpop, hs, rfl, rfl, (List.append_nil _).symm⟩
  | cons x xs =>
    rw [hl] at hlen hpop
    simp only [List.length_cons] at hlen
    have hfree : s.size < slotCount s.bound := by omega
    have htail : (r.drop 1).toList = xs := by rw [hr.toList_drop, hl]; rfl
    have hsmaller : (r.drop 1).size < r.size := size_lt_of_pop? hpop
    obtain ⟨t, ht, htidy, hbound, hhead, hlist⟩ := (hr.drop 1).pour_eq (hs.put x hfree) (by
      show s.size + 1 + (r.drop 1).size ≤ slotCount s.bound
      omega)
    refine ⟨t, ?_, htidy, hbound, hhead, ?_⟩
    · rw [pour_of_cons hpop hfree, ht]
    · rw [hlist, hs.toList_put, htail, List.append_assoc]
      rfl
termination_by r.size

/-- Moving the elements to a new ring of twice the slots doubles the ring. -/
theorem Tidy.pour_empty {r : Ring α} (hr : r.Tidy) :
    r.pour (empty (r.bound + 1)) = .ok r.double := by
  have hsize := r.size_le
  obtain ⟨t, ht, htidy, hbound, hhead, hlist⟩ := hr.pour_eq (tidy_empty (r.bound + 1)) (by
    show 0 + r.size ≤ 2 * slotCount r.bound
    omega)
  have hdouble : t = r.double := by
    refine htidy.eq_of_toList hr.double hbound hhead ?_
    rw [hlist, hr.toList_double]
    rfl
  rw [ht, hdouble]

theorem store_of_lt {r : Ring α} (x : α) (h : r.size < slotCount r.bound) :
    r.store x = .ok (r.put x h) := by
  simp only [store, push, dif_pos h]

theorem Tidy.store_of_full {r : Ring α} (hr : r.Tidy) (x : α) (h : ¬r.size < slotCount r.bound)
    (hbound : r.bound < largestBound) :
    r.store x = .ok (r.double.put x r.size_lt_double) := by
  have hcreate : (create (r.bound + 1) : Except BoundError (Ring α)) = .ok (empty (r.bound + 1)) :=
    if_pos hbound
  have hfull : r.push x = .error ⟨r.capacity, x⟩ := dif_neg h
  have hpush : r.double.push x = .ok (r.double.put x r.size_lt_double) := dif_pos r.size_lt_double
  rw [store, hfull]
  simp only [hcreate]
  show (r.pour (empty (r.bound + 1))).mapError Obstacle.full >>=
    (fun grown => (grown.push x).mapError .full) = _
  rw [hr.pour_empty]
  show (r.double.push x).mapError Obstacle.full = _
  rw [hpush]
  rfl

end Rewind.Ring
