import Rewind.Proofs.Scanner.Refinement

/-! Which checkpoints a scanner goes to. The verdict on any checkpoint, wherever it comes from, can be
read off the marks of the window and the text (`judge`). A refused one leaves everything as it was;
one that is gone to changes the cursor and the offset, and the units from there on are read again
(`rewindsExactly_reached`). -/
namespace Rewind

namespace Course

/-- The answer when the unit of an index is read, and what can be seen then. -/
def reading (text : List Char) (i : Nat) : Answer × View :=
  (.unit text[i]?, ⟨Text.width (text.take (i + 1)), text.drop (i + 1),
    decide (text.length ≤ i + 1)⟩)

/-- Behind the end there is nothing to be read. -/
theorem reading_of_length_le {text : List Char} {i : Nat} (h : text.length ≤ i) :
    reading text i = (.unit none, ⟨Text.width text, [], true⟩) := by
  unfold reading
  rw [List.getElem?_eq_none h, List.take_of_length_le (by omega),
    List.drop_eq_nil_of_le (by omega), decide_eq_true (by omega)]

/-- Reading unit by unit, with what can be seen after each. -/
theorem transcript_next (p : Position) (starts : List Checkpoint) (h : p.index ≤ p.text.length)
    (n : Nat) :
    transcript (List.replicate n (.act .next)) ⟨p, starts⟩ =
      (List.range n).map fun i => reading p.text (p.index + i) := by
  induction n generalizing p with
  | zero => rfl
  | succ n ih =>
    rw [List.replicate_succ, List.range_succ_eq_map, List.map_cons, List.map_map]
    show (Answer.unit p.text[p.index]?, Machine.view (p.advance 1).2) ::
      transcript (List.replicate n (.act .next)) ⟨(p.advance 1).2, starts⟩ = _
    by_cases hlt : p.index < p.text.length
    · have hrest : 1 ≤ p.rest.length := by
        rw [Position.rest, List.length_drop]
        omega
      rw [Position.advance_of_le hrest, ih (p.pass 1) hlt]
      congr 1
      · have hend : decide (p.index + 1 = p.text.length) =
            decide (p.text.length ≤ p.index + 1) := decide_eq_decide.mpr (by omega)
        show (_, View.mk _ _ (decide (p.index + 1 = p.text.length))) = _
        rw [hend]
        rfl
      · refine List.map_congr_left fun i _ => ?_
        show reading p.text (p.index + 1 + i) = reading p.text (p.index + (i + 1))
        rw [Nat.add_assoc, Nat.add_comm 1]
    · have hstay : (p.advance 1).2 = p.pass 0 := by
        rw [Position.advance, Position.rest, List.drop_eq_nil_of_le (by omega)]
        rfl
      rw [hstay, ih (p.pass 0) h]
      congr 1
      · rw [reading_of_length_le (by omega)]
        show (Answer.unit _, View.mk (Text.width (p.text.take p.index)) (p.text.drop p.index)
          (decide (p.index = p.text.length))) = _
        rw [List.getElem?_eq_none (by omega), List.take_of_length_le (by omega),
          List.drop_eq_nil_of_le (by omega), decide_eq_true (by omega)]
      · refine List.map_congr_left fun i _ => ?_
        show reading p.text (p.index + 0 + i) = reading p.text (p.index + (i + 1))
        rw [reading_of_length_le (by omega), reading_of_length_le (by omega)]

end Course

namespace Scanner

def pulled (s : Scanner) : Nat := s.text.length - s.unread.length

/-- The verdict on a checkpoint: whether its unit is held, or next to be pulled, and starts at its
offset. -/
def judge (s : Scanner) (c : Checkpoint) : Except CheckpointError Unit :=
  if c.cursor < s.window.oldest ∨ s.pulled < c.cursor then
    .error (.outOfRange c.cursor s.window.oldest s.pulled)
  else if c.offset ≠ Text.width (s.text.take c.cursor) then
    .error (.mismatch c.cursor c.offset (Text.width (s.text.take c.cursor)))
  else .ok ()

structure RewindsExactly (s : Scanner) (c : Checkpoint) : Prop where
  verdict_eq : (s.rewind c).1 = s.judge c
  /-- A refusal changes nothing and leaves no event. -/
  refused : ∀ e, (s.rewind c).1 = .error e → (s.rewind c).2 = s
  moved : (s.rewind c).1 = .ok () → s.MovesTo c (s.rewind c).2
  replays : (s.rewind c).1 = .ok () → ∀ n,
    Course.transcript (List.replicate n (.act .next)) (Course.begin (s.rewind c).2) =
      (List.range n).map fun i => Course.reading s.text (c.cursor + i)
  /-- The window checks the cursor once more before it sets it, but never in vain. -/
  settable : s.window.admits c.cursor = .ok () → ∃ w, s.window.rewind c.cursor = .ok w

namespace Tracks

variable {s : Scanner} {p : Position}

theorem pulled_eq (h : Tracks s p) : s.pulled = p.high := by
  have := h.high_le
  rw [pulled, h.text_eq, h.unread_eq, List.length_drop]
  omega

theorem transcript_next (h : Tracks s p) (n : Nat) :
    Course.transcript (List.replicate n (.act .next)) (Course.begin s) =
      (List.range n).map fun i => Course.reading p.text (p.index + i) := by
  rw [(Course.tracks_begin h).transcript_eq]
  exact Course.transcript_next p [] h.index_le_length n

theorem rewind_fst (h : Tracks s p) (c : Checkpoint) : (s.rewind c).1 = s.judge c := by
  unfold judge
  rw [h.oldest_eq, h.pulled_eq, h.text_eq]
  by_cases hout : c.cursor < p.low ∨ p.high < c.cursor
  · rw [if_pos hout, h.rewind_outside hout]
  · rw [if_neg hout]
    by_cases hne : c.offset ≠ Text.width (p.text.take c.cursor)
    · rw [if_pos hne, h.rewind_elsewhere (by omega) (by omega) hne]
      rfl
    · rw [if_neg hne]
      obtain ⟨t, ht, -, -⟩ :=
        h.rewind_admitted (c := c) (by omega) (by omega) (Decidable.of_not_not hne)
      rw [ht]

theorem rewindsExactly (h : Tracks s p) (c : Checkpoint) : s.RewindsExactly c := by
  refine
    { verdict_eq := h.rewind_fst c
      refused := ?_
      moved := ?_
      replays := ?_
      settable := ?_ }
  · intro e he
    rcases h.rewind_cases c with ⟨e', h'⟩ | ⟨t, ht, -, -⟩
    · rw [h']
    · rw [ht] at he
      cases he
  · intro hok
    rcases h.rewind_cases c with ⟨e, he⟩ | ⟨t, ht, hmoves, -⟩
    · rw [he] at hok
      cases hok
    · rw [ht]
      exact hmoves
  · intro hok n
    rcases h.rewind_cases c with ⟨e, he⟩ | ⟨t, ht, -, htracks⟩
    · rw [he] at hok
      cases hok
    · rw [ht, htracks.transcript_next, h.text_eq]
      rfl
  · intro hadmits
    obtain ⟨w, hw, -⟩ := Window.rewind_of_admits hadmits
    exact ⟨w, hw⟩

end Tracks

end Scanner

/-- The law of checkpoints, wherever moves get a scanner and whatever the checkpoint. -/
theorem Course.rewindsExactly_reached (text : List Char) (options : Options) (ms : List Move)
    (c : Checkpoint) : (reached text options ms).RewindsExactly c :=
  (tracks_reached text options ms).rewindsExactly c

end Rewind
