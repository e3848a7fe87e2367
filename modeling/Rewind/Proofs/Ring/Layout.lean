import Mathlib.Algebra.Group.Nat.Defs
import Rewind.Ring.Lemmas

/-! How a ring lies in its storage. Every slot is that of exactly one place, so a tidy ring is known
by its first slot and its elements (`Tidy.eq_of_toList`): a slot holds the element of its place or is
vacant. The slot of a place can be found by masking a sum of two words, which may overflow. -/
namespace Rewind.Ring

variable {α : Type}

theorem slotCount_eq_two_pow (bound : Nat) : slotCount bound = 2 ^ bound := by
  induction bound with
  | zero => rfl
  | succ b ih => rw [slotCount, ih, Nat.pow_succ, Nat.mul_comm]

theorem capacity_eq (r : Ring α) : r.capacity = 2 ^ r.bound := slotCount_eq_two_pow r.bound

theorem slot_eq_mod (r : Ring α) (i : Nat) : r.slot i = (r.head + i) % 2 ^ r.bound := by
  rw [slot, slotCount_eq_two_pow]

/-! ## Masks -/

/-- The sum of two words, cut down to the last bits, is the remainder of the true sum: the number of
words is a multiple of the number of slots, so an overflow does not show. -/
theorem masked_add {b m n : Nat} (hb : b ≤ 64) :
    ((BitVec.ofNat 64 m + BitVec.ofNat 64 n) &&& BitVec.ofNat 64 (2 ^ b - 1)).toNat =
      (m + n) % 2 ^ b := by
  have hdvd : 2 ^ b ∣ 2 ^ 64 := Nat.pow_dvd_pow 2 hb
  have hle : 2 ^ b ≤ 2 ^ 64 := Nat.pow_le_pow_right (by decide) hb
  have hpos : 0 < 2 ^ b := Nat.two_pow_pos b
  have hmask : (2 ^ b - 1) % 2 ^ 64 = 2 ^ b - 1 := Nat.mod_eq_of_lt (by omega)
  have hsum : (BitVec.ofNat 64 m + BitVec.ofNat 64 n).toNat = (m + n) % 2 ^ 64 := by
    rw [BitVec.toNat_add, BitVec.toNat_ofNat, BitVec.toNat_ofNat, ← Nat.add_mod]
  calc
    _ = (m + n) % 2 ^ 64 &&& (2 ^ b - 1) := by
      rw [BitVec.toNat_and, hsum, BitVec.toNat_ofNat, hmask]
    _ = (m + n) % 2 ^ 64 % 2 ^ b := Nat.and_two_pow_sub_one_eq_mod _ b
    _ = (m + n) % 2 ^ b := Nat.mod_mod_of_dvd _ hdvd

/-! ## Slots and places -/

/-- Every slot is that of a place. -/
theorem exists_slot_eq (r : Ring α) {j : Nat} (hj : j < slotCount r.bound) :
    ∃ i, i < slotCount r.bound ∧ r.slot i = j := by
  have hhead := r.head_lt
  by_cases h : r.head ≤ j
  · refine ⟨j - r.head, by omega, ?_⟩
    rw [slot_eq r (by omega), if_pos (by omega)]
    omega
  · refine ⟨j + slotCount r.bound - r.head, by omega, ?_⟩
    rw [slot_eq r (by omega), if_neg (by omega)]
    omega

theorem getElem?_slot (r : Ring α) (i : Nat) : r.slots[r.slot i]? = some (r.cell i) :=
  Vector.getElem?_eq_getElem (r.slot_lt i)

/-- The slot of a place that is taken holds its element, and the slots of the others are empty. -/
theorem Tidy.cell_eq {r : Ring α} (hr : r.Tidy) {i : Nat} (hi : i < slotCount r.bound) :
    r.cell i = r.toList[i]? := by
  rw [hr.getElem?_toList, get?_eq]
  by_cases h : i < r.size
  · rw [if_pos h]
  · rw [if_neg h]
    cases hc : r.cell i with
    | none => rfl
    | some x => exact absurd ((hr i hi).mp (by rw [hc]; rfl)) h

theorem Tidy.getElem?_slots {r : Ring α} (hr : r.Tidy) {i : Nat} (hi : i < slotCount r.bound) :
    r.slots[r.slot i]? = some r.toList[i]? := by
  rw [getElem?_slot, hr.cell_eq hi]

/-- A slot that is not that of a place in use is empty. -/
theorem Tidy.vacant {r : Ring α} (hr : r.Tidy) {j : Nat} (hj : j < slotCount r.bound)
    (hfree : ∀ i, i < r.size → j ≠ r.slot i) : r.slots[j]? = some none := by
  obtain ⟨i, hi, rfl⟩ := r.exists_slot_eq hj
  have hsize : r.size ≤ i := by
    by_cases h : i < r.size
    · exact absurd rfl (hfree i h)
    · omega
  rw [hr.getElem?_slots hi, List.getElem?_eq_none]
  rw [hr.length_toList]
  exact hsize

/-- Tidy rings with the same first slot and the same elements are the same, slot for slot. -/
theorem Tidy.eq_of_toList {r s : Ring α} (hr : r.Tidy) (hs : s.Tidy) (hbound : r.bound = s.bound)
    (hhead : r.head = s.head) (hlist : r.toList = s.toList) : r = s := by
  have hsize : r.size = s.size := by rw [← hr.length_toList, hlist, hs.length_toList]
  have hslot : ∀ i, r.slot i = s.slot i := by
    intro i
    rw [slot, slot, hhead, hbound]
  have hslots : ∀ j, j < slotCount r.bound → r.slots[j]? = s.slots[j]? := by
    intro j hj
    obtain ⟨i, hi, rfl⟩ := r.exists_slot_eq hj
    rw [hr.getElem?_slots hi, hslot i, hs.getElem?_slots (hbound ▸ hi), hlist]
  cases r with
  | mk bound slots head size head_lt size_le =>
    cases s with
    | mk bound' slots' head' size' head_lt' size_le' =>
      cases hbound
      cases hhead
      cases hsize
      obtain rfl : slots = slots' := by
        apply Vector.ext
        intro j hj
        have h := hslots j hj
        simp only [Vector.getElem?_eq_getElem hj] at h
        exact Option.some.inj h
      rfl

/-! ## Removing elements -/

/-- The oldest element is handed out and the others stay. -/
theorem Tidy.pop?_eq {r : Ring α} (hr : r.Tidy) :
    r.pop? = r.toList.head?.map fun x => (x, r.drop 1) := by
  rw [pop?, ← hr.getElem?_toList, List.head?_eq_getElem?]

theorem Tidy.clear {r : Ring α} (hr : r.Tidy) : r.clear.Tidy := by
  have hnone : ∀ i, i < slotCount r.bound → (r.drop r.size).cell i = none := by
    intro i hi
    have h := hr.drop r.size i hi
    have hzero : (r.drop r.size).size = 0 := by
      show r.size - min r.size r.size = 0
      omega
    rw [hzero] at h
    cases hc : (r.drop r.size).cell i with
    | none => rfl
    | some x => simp [hc] at h
  intro i hi
  -- going back to the first slot puts the places in front of other slots, which are empty too
  obtain ⟨k, hk, hslot⟩ := (r.drop r.size).exists_slot_eq (r.clear.slot_lt i)
  have hcell : r.clear.cell i = (r.drop r.size).cell k := by
    have h : (some (r.clear.cell i) : Option (Option α)) = some ((r.drop r.size).cell k) := by
      rw [← getElem?_slot, ← getElem?_slot, hslot]
      rfl
    exact Option.some.inj h
  rw [hcell, hnone k hk]
  show _ ↔ i < r.size - min r.size r.size
  simp

theorem Tidy.toList_clear {r : Ring α} (hr : r.Tidy) : r.clear.toList = [] := by
  apply List.eq_nil_of_length_eq_zero
  rw [hr.clear.length_toList]
  show r.size - min r.size r.size = 0
  omega

end Rewind.Ring
