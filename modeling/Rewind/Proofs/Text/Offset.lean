import Rewind.Text.Bytes

/-! Byte offsets of the units of a text. The unit of index `k` starts at `width (cs.take k)`. The
offsets of units are exactly the character boundaries, they grow with the index, and cutting a text
at them cuts the list of its units. -/
namespace Rewind.Text

theorem width_take_add_drop (cs : List Char) (k : Nat) :
    width (cs.take k) + width (cs.drop k) = width cs := by
  rw [← width_append, List.take_append_drop]

theorem width_pos {cs : List Char} (h : cs ≠ []) : 0 < width cs := by
  cases cs with
  | nil => exact absurd rfl h
  | cons c cs =>
    have := c.utf8Size_pos
    simp only [width]
    omega

/-- The bytes between two units are those of the units between them. -/
theorem width_take_add (cs : List Char) (i n : Nat) :
    width (cs.take (i + n)) = width (cs.take i) + width ((cs.drop i).take n) := by
  rw [← width_append, List.take_add]

theorem width_take_of_le {i j : Nat} (cs : List Char) (h : i ≤ j) :
    width (cs.take j) = width (cs.take i) + width ((cs.drop i).take (j - i)) := by
  rw [← width_take_add, Nat.add_sub_cancel' h]

theorem width_take_le {i j : Nat} (cs : List Char) (h : i ≤ j) :
    width (cs.take i) ≤ width (cs.take j) := by
  rw [width_take_of_le cs h]
  exact Nat.le_add_right ..

/-- Different units start at different bytes. -/
theorem width_take_lt {cs : List Char} {i j : Nat} (h : i < j) (hj : j ≤ cs.length) :
    width (cs.take i) < width (cs.take j) := by
  obtain ⟨n, rfl⟩ := Nat.exists_eq_add_of_lt h
  have hne : (cs.drop i).take (n + 1) ≠ [] := by
    intro he
    have hlen := congrArg List.length he
    simp only [List.length_take, List.length_drop, List.length_nil] at hlen
    omega
  have := width_pos hne
  rw [Nat.add_assoc, width_take_add]
  omega

theorem width_take_inj {cs : List Char} {i j : Nat} (hi : i ≤ cs.length) (hj : j ≤ cs.length)
    (h : width (cs.take i) = width (cs.take j)) : i = j := by
  rcases Nat.lt_trichotomy i j with hlt | heq | hgt
  · have := width_take_lt hlt hj
    omega
  · exact heq
  · have := width_take_lt hgt hi
    omega

/-- Beginnings of one text are equal that have as many bytes. -/
theorem eq_of_prefix_of_width {x y cs : List Char} (hx : x <+: cs) (hy : y <+: cs)
    (h : width x = width y) : x = y := by
  have hxs := List.prefix_iff_eq_take.mp hx
  have hys := List.prefix_iff_eq_take.mp hy
  have hlen : x.length = y.length :=
    width_take_inj hx.length_le hy.length_le (by rwa [← hxs, ← hys])
  rw [hxs, hys, hlen]

theorem takeBytes_width_take (cs : List Char) (k : Nat) :
    takeBytes (width (cs.take k)) cs = cs.take k := by
  induction cs generalizing k with
  | nil => simp [takeBytes]
  | cons c cs ih =>
    cases k with
    | zero =>
      have := c.utf8Size_pos
      rw [takeBytes, if_neg (by simp only [List.take_zero, width]; omega)]
      rfl
    | succ k =>
      rw [List.take_succ_cons, takeBytes, width, if_pos (Nat.le_add_right ..),
        Nat.add_sub_cancel_left, ih]

theorem dropBytes_width_take (cs : List Char) (k : Nat) :
    dropBytes (width (cs.take k)) cs = cs.drop k := by
  have h := takeBytes_append_dropBytes (width (cs.take k)) cs
  rw [takeBytes_width_take] at h
  exact List.append_cancel_left (h.trans (List.take_append_drop k cs).symm)

/-- Cutting at the offsets of two units leaves the units between them. -/
theorem slice_width_take (cs : List Char) (i n : Nat) :
    slice cs (width (cs.take i)) (width (cs.take (i + n))) = (cs.drop i).take n := by
  rw [slice, dropBytes_width_take, width_take_add, Nat.add_sub_cancel_left, takeBytes_width_take]

/-- Cutting out a part of a text at its offsets. -/
theorem slice_append (before w after : List Char) :
    slice (before ++ (w ++ after)) (width before) (width before + width w) = w := by
  have h := slice_width_take (before ++ (w ++ after)) before.length w.length
  rwa [width_take_add, List.take_left, List.drop_left, List.take_left] at h

/-- The offsets of units, that of the end among them, are the boundaries. -/
theorem isBoundary_iff (cs : List Char) (n : Nat) :
    isBoundary n cs = true ↔ ∃ k, k ≤ cs.length ∧ n = width (cs.take k) := by
  induction cs generalizing n with
  | nil => simp [isBoundary, width]
  | cons c cs ih =>
    simp only [isBoundary, Bool.or_eq_true, Bool.and_eq_true, decide_eq_true_iff, ih]
    constructor
    · rintro (rfl | ⟨hle, k, hk, he⟩)
      · exact ⟨0, Nat.zero_le _, rfl⟩
      · refine ⟨k + 1, Nat.succ_le_succ hk, ?_⟩
        simp only [List.take_succ_cons, width]
        omega
    · rintro ⟨k, hk, rfl⟩
      cases k with
      | zero => exact .inl rfl
      | succ k =>
        refine .inr ⟨Nat.le_add_right .., k, Nat.le_of_succ_le_succ hk, ?_⟩
        simp only [List.take_succ_cons, width, Nat.add_sub_cancel_left]

theorem isBoundary_width_take (cs : List Char) {k : Nat} (hk : k ≤ cs.length) :
    isBoundary (width (cs.take k)) cs = true :=
  (isBoundary_iff cs _).mpr ⟨k, hk, rfl⟩

/-- A position that is found by its byte is that of a unit. -/
theorem seek?_eq_some {before before' : Option Char} {n : Nat} {cs rest : List Char}
    (h : seek? before n cs = some (before', rest)) :
    ∃ k, k ≤ cs.length ∧ n = width (cs.take k) ∧ rest = cs.drop k := by
  induction cs generalizing before n with
  | nil =>
    simp only [seek?, Option.ite_none_right_eq_some, Option.some.injEq, Prod.mk.injEq] at h
    exact ⟨0, Nat.le_refl _, h.1, h.2.2.symm⟩
  | cons c cs ih =>
    simp only [seek?] at h
    split at h
    · next hn =>
      simp only [Option.some.injEq, Prod.mk.injEq] at h
      exact ⟨0, Nat.zero_le _, hn, h.2.symm⟩
    · simp only [Option.ite_none_right_eq_some] at h
      obtain ⟨hle, h⟩ := h
      obtain ⟨k, hk, hn, hrest⟩ := ih h
      refine ⟨k + 1, Nat.succ_le_succ hk, ?_, hrest⟩
      simp only [List.take_succ_cons, width]
      omega

/-- The byte of a unit finds its position. -/
theorem seek?_width_take (before : Option Char) (cs : List Char) {k : Nat} (hk : k ≤ cs.length) :
    ∃ before', seek? before (width (cs.take k)) cs = some (before', cs.drop k) := by
  induction cs generalizing before k with
  | nil => exact ⟨before, by simp [seek?, width]⟩
  | cons c cs ih =>
    cases k with
    | zero => exact ⟨before, rfl⟩
    | succ k =>
      obtain ⟨before', hseek⟩ := ih (some c) (Nat.le_of_succ_le_succ hk)
      refine ⟨before', ?_⟩
      have := c.utf8Size_pos
      rw [List.take_succ_cons, width, seek?, if_neg (by omega), if_pos (Nat.le_add_right ..),
        Nat.add_sub_cancel_left, hseek, List.drop_succ_cons]

end Rewind.Text
