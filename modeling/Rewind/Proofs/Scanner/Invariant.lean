import Rewind.Proofs.Scanner.Refinement

/-! The invariant of a scanner. Its ring, its two indices, its unread text and its offset all tell of
one place in one text, and this holds wherever any moves get it (`represents_reached`). So a scanner
never finds itself inconsistent, cuts its text only between two units, and takes no number from a
smaller one. -/
namespace Rewind

namespace Scanner

/-- A scanner whose parts fit a text and each other. -/
structure Represents (s : Scanner) (text : List Char) : Prop where
  text_eq : s.text = text
  oldest_le : s.window.oldest ≤ s.consumed
  consumed_le : s.consumed ≤ s.window.oldest + s.held
  pulled_le : s.window.oldest + s.held ≤ text.length
  /-- A held unit is that of the text at the same index. -/
  get?_eq : ∀ i, s.window.oldest ≤ i → i < s.window.oldest + s.held →
    s.window.get? i = text[i]?
  /-- Each unit was pulled once and in order. -/
  unread_eq : s.unread = text.drop (s.window.oldest + s.held)
  offset_eq : s.offset = Text.width (text.take s.consumed)

/-- The offsets at which a scanner cuts its text lie between two units, and in order. -/
structure CutsBetweenUnits (s : Scanner) : Prop where
  rest : Text.isBoundary s.offset s.text = true
  takeWhile : ∀ f, s.offset ≤ (s.takeWhile f).2.offset ∧
    Text.isBoundary (s.takeWhile f).2.offset s.text = true
  takeUntil : ∀ f, s.offset ≤ (s.takeUntil f).2.offset ∧
    Text.isBoundary (s.takeUntil f).2.offset s.text = true

/-- No difference that a scanner takes is cut off at zero: neither that of two indices nor, looking
back from the cursor, that of the offset and the bytes of held units. -/
structure SubtractsExactly (s : Scanner) : Prop where
  ahead : s.window.cursor ≤ s.window.arrived
  behind : s.window.oldest ≤ s.window.cursor
  startOf : ∀ i, s.window.oldest ≤ i → i ≤ s.consumed →
    s.widthFrom i (s.consumed - i) ≤ s.offset

theorem all_zip_take (cs : List Char) (n : Nat) :
    ((cs.zip (cs.take n)).all fun (c, d) => c == d) = true := by
  induction cs generalizing n with
  | nil => rfl
  | cons c cs ih =>
    cases n with
    | zero => rfl
    | succ n =>
      rw [List.take_succ_cons, List.zip_cons_cons, List.all_cons, ih, Bool.and_true]
      exact beq_self_eq_true c

namespace Tracks

variable {s : Scanner} {p : Position}

theorem represents (h : Tracks s p) : s.Represents p.text := by
  have hpulled : s.window.oldest + s.held = p.high := h.arrived_eq
  refine
    { text_eq := h.text_eq
      oldest_le := s.window.oldest_le
      consumed_le := s.window.cursor_le
      pulled_le := hpulled ▸ h.high_le
      get?_eq := ?_
      unread_eq := hpulled ▸ h.unread_eq
      offset_eq := ?_ }
  · intro i hi hlt
    rw [h.holds.get?_eq, if_pos hi, List.getElem?_take_of_lt (hpulled ▸ hlt)]
  · rw [consumed, h.cursor_eq]
    exact h.offset_eq

theorem isBoundary_offset (h : Tracks s p) : Text.isBoundary s.offset p.text = true := by
  rw [h.offset_eq]
  exact Text.isBoundary_width_take p.text h.index_le_length

/-- The window from the cursor on is as much of the text to come as was pulled. -/
theorem toList_eq (h : Tracks s p) : s.window.toList = p.rest.take (p.high - p.index) := by
  rw [h.holds.toList_eq, h.cursor_eq, List.drop_take]
  rfl

theorem isConsistent (h : Tracks s p) : s.isConsistent = true := by
  have hwidth : s.offset + Text.width s.window.toList + Text.width s.unread =
      Text.width s.text := by
    rw [h.toList_eq, h.unread_eq, h.text_eq, h.offset_eq, ← Text.width_take_add_drop p.text p.high,
      Text.width_take_of_le p.text h.index_le]
    rfl
  unfold Scanner.isConsistent
  rw [hwidth, h.text_eq, h.isBoundary_offset, h.rest_eq, h.toList_eq, all_zip_take]
  simp only [beq_self_eq_true, Bool.and_true]

theorem cuts_takeWhile (h : Tracks s p) (f : Char → Bool) :
    s.offset ≤ (s.takeWhile f).2.offset ∧
      Text.isBoundary (s.takeWhile f).2.offset s.text = true := by
  obtain ⟨-, hafter⟩ := h.takeWhile f
  constructor
  · rw [h.offset_eq, hafter.offset_eq]
    exact Text.width_take_le p.text (Nat.le_add_right ..)
  · rw [h.text_eq]
    exact hafter.isBoundary_offset

theorem cutsBetweenUnits (h : Tracks s p) : s.CutsBetweenUnits where
  rest := h.text_eq ▸ h.isBoundary_offset
  takeWhile := h.cuts_takeWhile
  takeUntil f := h.cuts_takeWhile fun c => !f c

theorem subtractsExactly (h : Tracks s p) : s.SubtractsExactly where
  ahead := s.window.cursor_le_arrived
  behind := s.window.oldest_le
  startOf i hlow hi := by
    have hle := h.index_le
    rw [consumed, h.cursor_eq] at hi ⊢
    rw [h.oldest_eq] at hlow
    rw [h.widthFrom_eq hlow (by omega), h.offset_eq, Position.offset, Position.startOf,
      Text.width_take_of_le p.text hi]
    exact Nat.le_add_left ..

end Tracks

end Scanner

namespace Course

/-- Wherever moves get a scanner, its parts fit the text that it was started on. -/
theorem represents_reached (text : List Char) (options : Options) (ms : List Move) :
    (reached text options ms).Represents text ∧ (reached text options ms).isConsistent = true ∧
      (reached text options ms).CutsBetweenUnits ∧ (reached text options ms).SubtractsExactly := by
  have h := tracks_reached text options ms
  have hrep := h.represents
  rw [text_after] at hrep
  exact ⟨hrep, h.isConsistent, h.cutsBetweenUnits, h.subtractsExactly⟩

end Course

end Rewind
