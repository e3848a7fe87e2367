import Rewind.Ring.Basic

/-! The list view of a ring. Distinct places have distinct slots, so each operation is described by
the elements that stand at each place after it. -/
namespace Rewind

variable {α : Type}

/-- The values at the numbers below `n`, where they are those of a list. -/
theorem filterMap_range_eq_take {f : Nat → Option α} (xs : List α) {n : Nat}
    (hf : ∀ i, i < n → f i = xs[i]?) : (List.range n).filterMap f = xs.take n := by
  induction n with
  | zero => rfl
  | succ n ih =>
    rw [List.range_succ, List.filterMap_append, ih fun i hi => hf i (by omega), List.take_add_one]
    cases hx : xs[n]? <;> simp [hf n (Nat.lt_succ_self n), hx]

namespace Ring

theorem slot_eq (r : Ring α) {i : Nat} (hi : i < slotCount r.bound) :
    r.slot i = if r.head + i < slotCount r.bound then r.head + i
      else r.head + i - slotCount r.bound := by
  have hs := r.head_lt
  unfold slot
  split
  · exact Nat.mod_eq_of_lt (by omega)
  · rw [Nat.mod_eq_sub_mod (by omega)]
    exact Nat.mod_eq_of_lt (by omega)

theorem slot_ne (r : Ring α) {i j : Nat} (hi : i < slotCount r.bound) (hj : j < slotCount r.bound)
    (h : i ≠ j) : r.slot i ≠ r.slot j := by
  have hs := r.head_lt
  rw [slot_eq r hi, slot_eq r hj]
  split <;> split <;> omega

/-- What lies in the slot of a place, whether or not the place is taken. -/
def cell (r : Ring α) (i : Nat) : Option α := r.slots.get ⟨r.slot i, r.slot_lt i⟩

theorem get?_eq (r : Ring α) (i : Nat) : r.get? i = if i < r.size then r.cell i else none := rfl

/-- Places that are taken hold an element, and the others are empty. -/
def Tidy (r : Ring α) : Prop :=
  ∀ i, i < slotCount r.bound → ((r.cell i).isSome ↔ i < r.size)

theorem tidy_empty (bound : Nat) : (empty bound : Ring α).Tidy := by
  intro i _
  simp [cell, empty, Vector.get]

theorem cell_put (r : Ring α) (x : α) (h : r.size < slotCount r.bound) {i : Nat}
    (hi : i < slotCount r.bound) :
    (r.put x h).cell i = if i = r.size then some x else r.cell i := by
  show getElem (r.slots.set (r.slot r.size) (some x) (r.slot_lt r.size)) (r.slot i)
    (r.slot_lt i) = _
  rw [Vector.getElem_set]
  by_cases hs : i = r.size
  · simp [hs]
  · rw [if_neg (slot_ne r h hi (Ne.symm hs)), if_neg hs]
    rfl

theorem Tidy.put {r : Ring α} (hr : r.Tidy) (x : α) (h : r.size < slotCount r.bound) :
    (r.put x h).Tidy := by
  intro i hi
  rw [cell_put r x h hi]
  show _ ↔ i < r.size + 1
  by_cases hs : i = r.size
  · simp [hs]
  · rw [if_neg hs, hr i hi]
    omega

theorem clearSlots_get (r : Ring α) {n i : Nat} (hn : n ≤ slotCount r.bound)
    (hi : i < slotCount r.bound) :
    (r.clearSlots n).get ⟨r.slot i, r.slot_lt i⟩ = if i < n then none else r.cell i := by
  induction n with
  | zero => rfl
  | succ n ih =>
    show getElem ((r.clearSlots n).set (r.slot n) none (r.slot_lt n)) (r.slot i) (r.slot_lt i) = _
    rw [Vector.getElem_set]
    by_cases h : i = n
    · simp [h]
    · rw [if_neg (slot_ne r (by omega) hi (Ne.symm h))]
      refine (ih (by omega)).trans ?_
      by_cases hlt : i < n
      · rw [if_pos hlt, if_pos (by omega)]
      · rw [if_neg hlt, if_neg (by omega)]

theorem slot_drop (r : Ring α) (n i : Nat) :
    (r.drop n).slot i = r.slot (min n r.size + i) := by
  show ((r.head + min n r.size) % slotCount r.bound + i) % slotCount r.bound = _
  rw [Nat.mod_add_mod, Nat.add_assoc]
  rfl

/-- Past the end of the slots the places begin again. -/
theorem slot_wrap (r : Ring α) (i : Nat) : r.slot (i + slotCount r.bound) = r.slot i := by
  unfold slot
  rw [← Nat.add_assoc, Nat.add_mod_right]

theorem cell_drop (r : Ring α) (n : Nat) {i : Nat} (hi : i < slotCount r.bound) :
    (r.drop n).cell i = if i + min n r.size < slotCount r.bound then r.cell (i + min n r.size)
      else none := by
  have hs := r.size_le
  have hcell : (r.drop n).cell i = (r.clearSlots (min n r.size)).get
      ⟨r.slot (i + min n r.size), r.slot_lt _⟩ := by
    show (r.clearSlots (min n r.size)).get _ = _
    congr 2
    rw [slot_drop, Nat.add_comm]
  rw [hcell]
  by_cases h : i + min n r.size < slotCount r.bound
  · rw [clearSlots_get r (by omega) h, if_pos h, if_neg (by omega)]
  · have hw := r.slot_wrap (i + min n r.size - slotCount r.bound)
    rw [Nat.sub_add_cancel (by omega)] at hw
    have := clearSlots_get r (n := min n r.size) (i := i + min n r.size - slotCount r.bound)
      (by omega) (by omega)
    simp only [← hw] at this
    rw [this, if_neg h, if_pos (by omega)]

theorem Tidy.drop {r : Ring α} (hr : r.Tidy) (n : Nat) : (r.drop n).Tidy := by
  intro i hi
  rw [cell_drop r n hi]
  show _ ↔ i < r.size - min n r.size
  have hs := r.size_le
  split
  · rw [hr _ (by assumption)]
    omega
  · simp
    omega

theorem cell_double (r : Ring α) {i : Nat} (hi : i < slotCount r.double.bound) :
    r.double.cell i = r.get? i := by
  have hslot : r.double.slot i = i := by
    rw [slot_eq _ hi]
    simp [double] at hi ⊢
    omega
  show r.double.slots.get ⟨r.double.slot i, _⟩ = _
  simp only [hslot]
  exact Vector.getElem_ofFn _

theorem Tidy.double {r : Ring α} (hr : r.Tidy) : r.double.Tidy := by
  intro i hi
  rw [cell_double r hi, get?_eq]
  show _ ↔ i < r.size
  have hs := r.size_le
  split
  · rw [hr _ (by omega)]
  · simp
    omega

theorem Tidy.isSome_get? {r : Ring α} (hr : r.Tidy) {i : Nat} (hi : i < r.size) :
    (r.get? i).isSome := by
  have hs := r.size_le
  rw [get?_eq, if_pos hi]
  exact (hr i (by omega)).2 hi

/-- The list of a ring has its element at each index below the size. -/
theorem Tidy.toList_eq {r : Ring α} (hr : r.Tidy) :
    r.toList = List.ofFn fun i : Fin r.size => (r.get? i).get (hr.isSome_get? i.isLt) := by
  rw [toList, filterMap_range_eq_take (List.ofFn fun i : Fin r.size => _), List.take_of_length_le]
  · exact Nat.le_of_eq List.length_ofFn
  · intro i hi
    rw [List.getElem?_ofFn, dif_pos hi, Option.some_get]

theorem Tidy.length_toList {r : Ring α} (hr : r.Tidy) : r.toList.length = r.size := by
  rw [hr.toList_eq, List.length_ofFn]

theorem Tidy.getElem?_toList {r : Ring α} (hr : r.Tidy) (i : Nat) : r.toList[i]? = r.get? i := by
  rw [hr.toList_eq, List.getElem?_ofFn]
  split
  · exact Option.some_get _
  · next hi => rw [get?_eq, if_neg hi]

theorem Tidy.toList_put {r : Ring α} (hr : r.Tidy) (x : α) (h : r.size < slotCount r.bound) :
    (r.put x h).toList = r.toList ++ [x] := by
  have hlen := hr.length_toList
  apply List.ext_getElem?
  intro i
  rw [(hr.put x h).getElem?_toList, get?_eq]
  show (if i < r.size + 1 then _ else _) = _
  by_cases hi : i < r.size
  · rw [if_pos (by omega), cell_put r x h (by omega), if_neg (by omega),
      List.getElem?_append_left (by omega), hr.getElem?_toList, get?_eq, if_pos hi]
  · rw [List.getElem?_append_right (by omega), hlen]
    by_cases hs : i = r.size
    · rw [if_pos (by omega), cell_put r x h (by omega), if_pos hs]
      simp [hs]
    · rw [if_neg (by omega), List.getElem?_eq_none]
      simp
      omega

theorem Tidy.toList_drop {r : Ring α} (hr : r.Tidy) (n : Nat) :
    (r.drop n).toList = r.toList.drop n := by
  have hs := r.size_le
  apply List.ext_getElem?
  intro i
  rw [(hr.drop n).getElem?_toList, List.getElem?_drop, hr.getElem?_toList, get?_eq, get?_eq]
  show (if i < r.size - min n r.size then _ else _) = _
  by_cases hi : i < r.size - min n r.size
  · rw [if_pos hi, if_pos (by omega), cell_drop r n (by omega), if_pos (by omega)]
    congr 1
    omega
  · rw [if_neg hi, if_neg (by omega)]

theorem Tidy.toList_double {r : Ring α} (hr : r.Tidy) : r.double.toList = r.toList := by
  have hs := r.size_le
  apply List.ext_getElem?
  intro i
  rw [hr.double.getElem?_toList, hr.getElem?_toList, get?_eq]
  show (if i < r.size then _ else _) = _
  split
  · exact cell_double r (show i < 2 * slotCount r.bound by omega)
  · rw [get?_eq, if_neg (by assumption)]

end Ring

end Rewind
