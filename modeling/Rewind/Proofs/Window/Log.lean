import Rewind.Ring.Lemmas
import Rewind.Window.Basic

/-! Windows and logs. A window holds the end of the log of all units that ever arrived: the unit of
index `i` of the log is that of index `i` of the window for as long as it is held. Every operation
either adds to the log or leaves it. -/
namespace Rewind.Window

variable {α : Type}

/-- The window holds the units of a log from index `oldest` on. -/
structure Holds (w : Window α) (log : List α) : Prop where
  tidy : w.ring.Tidy
  arrived : w.arrived = log.length
  kept : w.ring.toList = log.drop w.oldest

theorem holds_ofRing (bound : Nat) : (ofRing (.empty bound) : Window α).Holds [] where
  tidy := Ring.tidy_empty bound
  arrived := rfl
  kept := rfl

theorem holds_empty : (empty : Window α).Holds [] := holds_ofRing firstBound

theorem cursor_le_arrived (w : Window α) : w.cursor ≤ w.arrived := w.cursor_le

theorem oldest_le_arrived (w : Window α) : w.oldest ≤ w.arrived :=
  Nat.le_trans w.oldest_le w.cursor_le

namespace Holds

variable {w : Window α} {log : List α}

theorem cursor_le (h : w.Holds log) : w.cursor ≤ log.length :=
  h.arrived ▸ w.cursor_le_arrived

theorem oldest_le (h : w.Holds log) : w.oldest ≤ log.length :=
  h.arrived ▸ w.oldest_le_arrived

theorem ahead_eq (h : w.Holds log) : w.ahead = log.length - w.cursor := by
  rw [ahead, h.arrived]

/-- A held unit is that of the log at the same index. -/
theorem get?_eq (h : w.Holds log) (i : Nat) :
    w.get? i = if w.oldest ≤ i then log[i]? else none := by
  unfold get?
  split
  · next hi => rw [← h.tidy.getElem?_toList, h.kept, List.getElem?_drop, Nat.add_sub_cancel' hi]
  · rfl

theorem peek?_eq (h : w.Holds log) (n : Nat) : w.peek? n = log[w.cursor + n]? := by
  have hcur := h.cursor_le
  have hold := w.oldest_le
  unfold peek?
  split
  · rw [← h.tidy.getElem?_toList, h.kept, List.getElem?_drop]
    congr 1
    omega
  · next hn =>
    rw [h.ahead_eq] at hn
    rw [List.getElem?_eq_none (by omega)]

theorem toList_eq (h : w.Holds log) : w.toList = log.drop w.cursor := by
  rw [toList, h.kept, List.drop_drop, Nat.add_sub_cancel' w.oldest_le]

/-! ## Operations -/

theorem push (h : w.Holds log) (x : α) : (w.push x).Holds (log ++ [x]) := by
  have hold := h.oldest_le
  have harr := h.arrived
  simp only [Window.arrived] at harr
  unfold Window.push
  split
  · next hfree =>
    refine ⟨h.tidy.put x hfree, ?_, ?_⟩
    · show w.oldest + (w.ring.size + 1) = _
      rw [List.length_append, ← harr]
      rfl
    · show (w.ring.put x hfree).toList = (log ++ [x]).drop w.oldest
      rw [h.tidy.toList_put, h.kept, List.drop_append_of_le_length hold]
  · refine ⟨h.tidy.double.put x w.ring.size_lt_double, ?_, ?_⟩
    · show w.oldest + (w.ring.size + 1) = _
      rw [List.length_append, ← harr]
      rfl
    · show (w.ring.double.put x w.ring.size_lt_double).toList = (log ++ [x]).drop w.oldest
      rw [h.tidy.double.toList_put, h.tidy.toList_double, h.kept,
        List.drop_append_of_le_length hold]

theorem advance (h : w.Holds log) (n : Nat) : (w.advance n).Holds log :=
  ⟨h.tidy, h.arrived, h.kept⟩

theorem note (h : w.Holds log) (e : Event) : (w.note e).Holds log :=
  ⟨h.tidy, h.arrived, h.kept⟩

theorem quiet (h : w.Holds log) : w.quiet.Holds log :=
  ⟨h.tidy, h.arrived, h.kept⟩

theorem rewind (h : w.Holds log) {v : Window α} {i : Nat} (hv : w.rewind i = .ok v) :
    v.Holds log := by
  unfold Window.rewind at hv
  split at hv
  · cases hv
    exact ⟨h.tidy, h.arrived, h.kept⟩
  · cases hv

/-- Letting go of units changes no index. -/
theorem release (h : w.Holds log) : w.release.Holds log := by
  have hold := w.oldest_le
  have hcur := w.cursor_le
  refine ⟨h.tidy.drop w.behind, ?_, ?_⟩
  · rw [← h.arrived]
    show w.cursor + (w.ring.size - min w.behind w.ring.size) = w.oldest + w.ring.size
    simp only [behind]
    omega
  · show (w.ring.drop w.behind).toList = log.drop w.cursor
    rw [h.tidy.toList_drop, h.kept, List.drop_drop, behind, Nat.add_sub_cancel' hold]

end Holds

@[simp] theorem cursor_push (w : Window α) (x : α) : (w.push x).cursor = w.cursor := by
  unfold push
  split <;> rfl

@[simp] theorem oldest_push (w : Window α) (x : α) : (w.push x).oldest = w.oldest := by
  unfold push
  split <;> rfl

/-- An index is admitted exactly when the cursor can be set to it. -/
theorem rewind_of_admits {w : Window α} {i : Nat} (h : w.admits i = .ok ()) :
    ∃ v, w.rewind i = .ok v ∧ v.cursor = i ∧ v.oldest = w.oldest ∧ v.ring = w.ring ∧
      v.journal = w.journal ++ [.restored w.cursor i] := by
  unfold admits at h
  split at h
  · next hi => exact ⟨_, dif_pos hi, rfl, rfl, rfl, rfl⟩
  · cases h

end Rewind.Window
