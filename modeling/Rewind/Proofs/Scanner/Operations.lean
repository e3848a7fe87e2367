import Rewind.Proofs.Pattern.Geometry
import Rewind.Proofs.Scanner.Tracks

/-! What each operation of a scanner amounts to. A scanner that tracks a position goes on to track
the position to which the operation of the same name leads, and both give the same outcome. -/
namespace Rewind.Scanner

/-- What a scanner becomes when it goes to a checkpoint. The move is told of twice, as one of the
cursor and as one of the offset. -/
structure MovesTo (s : Scanner) (c : Checkpoint) (t : Scanner) : Prop where
  text_eq : t.text = s.text
  unread_eq : t.unread = s.unread
  options_eq : t.options = s.options
  ring_eq : t.window.ring = s.window.ring
  oldest_eq : t.window.oldest = s.window.oldest
  cursor_eq : t.window.cursor = c.cursor
  offset_eq : t.offset = c.offset
  journal_eq : t.window.journal = s.window.journal ++
    [.restored s.window.cursor c.cursor, .offsetRestored s.offset c.offset]

namespace Tracks

variable {s : Scanner} {p : Position}

theorem peek (h : Tracks s p) : Agree s.peek (p.text[p.index]?, p.see (p.index + 1)) :=
  h.lookAhead 0

theorem accept (h : Tracks s p) (c : Char) : Agree (s.accept c) (p.accept c) := by
  refine h.peek.bind fun t ht => ?_
  unfold Position.accept
  by_cases hc : p.text[p.index]? = some c
  · rw [if_pos hc, if_pos hc, ← p.see_pass (Nat.le_refl _)]
    exact ht.next_of_some hc
  · rw [if_neg hc, if_neg hc]
    exact ⟨rfl, ht⟩

/-! ## Runs of units -/

/-- The loop ends behind the longest run, given fuel for all units to come. -/
theorem takeRun (h : Tracks s p) (f : Char → Bool) (fuel : Nat) (hfuel : p.rest.length < fuel) :
    Agree (takeRun f fuel s) ((), (p.takeWhile f).2) := by
  induction fuel generalizing s p with
  | zero => omega
  | succ n ih =>
    refine h.peek.bind fun t ht => ?_
    cases hc : p.text[p.index]? with
    | none =>
      have hrun : (p.takeWhile f).2 = p.see (p.index + 1) := by
        simp only [Position.takeWhile, Position.rest_nil hc, List.takeWhile_nil, List.length_nil,
          h.pass_zero]
      rw [hrun]
      exact ⟨rfl, ht⟩
    | some c =>
      simp only
      have hrest := Position.rest_cons hc
      by_cases hf : f c = true
      · rw [if_pos hf]
        refine (ht.next_of_some hc).bind fun u hu => ?_
        rw [p.see_pass (Nat.le_refl _)] at hu
        have hrun : (p.takeWhile f).2 = ((p.pass 1).takeWhile f).2 := by
          simp only [Position.takeWhile, hrest, List.takeWhile_cons, if_pos hf, List.length_cons,
            Position.pass_add, Nat.add_comm _ 1]
          congr 2
          exact (Nat.add_assoc ..).symm
        rw [hrun]
        refine ih hu ?_
        rw [hrest, List.length_cons] at hfuel
        omega
      · rw [if_neg hf]
        have hrun : (p.takeWhile f).2 = p.see (p.index + 1) := by
          simp only [Position.takeWhile, hrest, List.takeWhile_cons, if_neg hf, List.length_nil,
            h.pass_zero]
        rw [hrun]
        exact ⟨rfl, ht⟩

/-- What lies between two offsets of the cursor is the text that it went over. -/
theorem slice_eq (h : Tracks s p) {t : Scanner} {n : Nat} {q : Position} (ht : Tracks t q)
    (htext : q.text = p.text) (hindex : q.index = p.index + n) :
    Text.slice t.text s.offset t.offset = p.rest.take n := by
  rw [ht.text_eq, htext, ht.offset_eq, h.offset_eq]
  unfold Position.offset Position.startOf
  rw [htext, hindex]
  exact Text.slice_width_take ..

theorem takeWhile (h : Tracks s p) (f : Char → Bool) :
    Agree (s.takeWhile f) (p.takeWhile f) := by
  obtain ⟨-, hrun⟩ := h.takeRun f (s.remaining + 1)
    (by rw [h.remaining_eq]; exact Nat.lt_succ_self _)
  refine ⟨?_, hrun⟩
  have hprefix := List.takeWhile_prefix (l := p.rest) f
  exact (h.slice_eq hrun rfl rfl).trans (List.prefix_iff_eq_take.mp hprefix).symm

theorem takeUntil (h : Tracks s p) (f : Char → Bool) :
    Agree (s.takeUntil f) (p.takeWhile fun c => !f c) := h.takeWhile fun c => !f c

theorem takeSpace (h : Tracks s p) :
    Agree s.takeSpace (p.takeWhile p.options.space.matchesOne) := by
  rw [Scanner.takeSpace, Scan.get_bind_apply, ← h.options_eq]
  exact h.takeWhile s.inSpace

theorem takeWord (h : Tracks s p) : Agree s.takeWord (p.takeWhile p.options.word.matchesOne) := by
  rw [Scanner.takeWord, Scan.get_bind_apply, ← h.options_eq]
  exact h.takeWhile s.inWord

/-! ## Texts that come next -/

/-- The comparison from `n` units ahead on, where the units before them have been looked at. -/
theorem spells (h : Tracks s p) {n : Nat} (hn : min p.text.length (p.index + n) ≤ p.high)
    (cs : List Char) :
    Agree (s.spells n cs) (decide (cs <+: p.rest.drop n),
      p.see (p.index + n + Position.compared cs (p.rest.drop n))) := by
  induction cs generalizing s p n with
  | nil =>
    rw [Position.compared, if_pos (List.nil_prefix ..), List.length_nil, Nat.add_zero,
      h.see_eq_self hn]
    refine ⟨?_, h⟩
    show true = decide ([] <+: p.rest.drop n)
    exact (decide_eq_true (List.nil_prefix ..)).symm
  | cons c cs ih =>
    refine (h.lookAhead n).bind fun t ht => ?_
    have hhead : (p.rest.drop n).head? = p.text[p.index + n]? := by
      rw [List.head?_drop, Position.getElem?_rest]
    unfold Position.lookAhead at ht ⊢
    by_cases hc : p.text[p.index + n]? = some c
    · rw [if_pos hc]
      obtain ⟨tail, htail⟩ := List.head?_eq_some_iff.mp (hhead.trans hc)
      have hnext : (p.see (p.index + n + 1)).rest.drop (n + 1) = tail := by
        show p.rest.drop (n + 1) = tail
        rw [← List.drop_drop, htail]
        rfl
      have hih := ih ht (n := n + 1) (by simp only [Position.see]; omega)
      rw [hnext, p.see_see (by simp only [Position.see]; omega)] at hih
      have hpre : c :: cs <+: c :: tail ↔ cs <+: tail := by simp
      have hsum : p.index + n + (Position.compared cs tail + 1) =
          p.index + (n + 1) + Position.compared cs tail := by omega
      rw [htail, Position.compared_cons_self, decide_eq_decide.mpr hpre, hsum]
      exact hih
    · rw [if_neg hc]
      have hne : (p.rest.drop n).head? ≠ some c := fun he => hc (hhead.symm.trans he)
      rw [Position.compared_of_head?_ne hne,
        decide_eq_false (Position.not_prefix_of_head?_ne hne)]
      exact ⟨rfl, ht⟩

theorem startsWith (h : Tracks s p) (cs : List Char) :
    Agree (s.startsWith cs) (p.startsWith cs) := by
  have hle := h.index_le
  have hspells := h.spells (n := 0) (by omega) cs
  refine hspells.bind fun t ht => ?_
  refine ⟨?_, ht⟩
  show (if decide (cs <+: p.rest) = true then some cs.length else none) = _
  simp only [decide_eq_true_iff]
  rfl

theorem acceptText (h : Tracks s p) (cs : List Char) :
    Agree (s.acceptText cs) (p.acceptText cs) := by
  refine (h.startsWith cs).bind fun t ht => ?_
  unfold Position.acceptText Position.startsWith at *
  by_cases hcs : cs <+: p.rest
  · simp only [if_pos hcs, Position.compared_of_prefix hcs] at ht ⊢
    refine (ht.advance cs.length).bind fun u hu => ?_
    rw [Position.advance_of_le (p := p.see _) hcs.length_le, p.see_pass (Nat.le_refl _)] at hu
    exact ⟨rfl, hu⟩
  · simp only [if_neg hcs] at ht ⊢
    exact ⟨rfl, ht⟩

/-- After a text that comes next the unit behind it is looked at. -/
theorem lookBehind {t : Scanner} {cs : List Char} (ht : Tracks t (p.see (p.index + cs.length))) :
    Agree (t.lookAhead cs.length)
      (p.text[p.index + cs.length]?, p.see (p.index + cs.length + 1)) := by
  rw [← p.see_see (Nat.le_succ _)]
  exact ht.lookAhead cs.length

/-- Passing a text after the unit behind it has been looked at. -/
theorem advance_looked {t : Scanner} {cs : List Char} (hcs : cs <+: p.rest)
    (ht : Tracks t (p.see (p.index + cs.length + 1))) :
    Tracks (t.advance cs.length).2 ((p.pass cs.length).see (p.index + cs.length + 1)) := by
  have hadv := (ht.advance cs.length).2
  rw [Position.advance_of_le (p := p.see _) hcs.length_le] at hadv
  rwa [← p.see_pass_comm]

theorem acceptBefore (h : Tracks s p) (cs : List Char) (f : Char → Bool) :
    Agree (s.acceptBefore cs f) (p.acceptBefore cs f) := by
  refine (h.startsWith cs).bind fun t ht => ?_
  unfold Position.acceptBefore Position.acceptIf
  unfold Position.startsWith at *
  by_cases hcs : cs <+: p.rest
  · simp only [if_pos hcs, Position.compared_of_prefix hcs] at ht ⊢
    refine (lookBehind ht).bind fun u hu => ?_
    by_cases hf : p.text[p.index + cs.length]?.any f = true
    · rw [if_pos hf, if_pos hf]
      exact ⟨rfl, advance_looked hcs hu⟩
    · rw [if_neg hf, if_neg hf]
      exact ⟨rfl, hu⟩
  · simp only [if_neg hcs] at ht ⊢
    exact ⟨rfl, ht⟩

theorem acceptKeyword (h : Tracks s p) (cs : List Char) :
    Agree (s.acceptKeyword cs) (p.acceptKeyword cs) := by
  refine (h.startsWith cs).bind fun t ht => ?_
  unfold Position.acceptKeyword Position.acceptIf
  unfold Position.startsWith at *
  by_cases hcs : cs <+: p.rest
  · simp only [if_pos hcs, Position.compared_of_prefix hcs] at ht ⊢
    refine (lookBehind ht).bind fun u hu => ?_
    have hword : u.inWord = p.options.word.matchesOne := by
      funext c
      rw [inWord, hu.options_eq]
      rfl
    rw [Scan.get_bind_apply, hword]
    by_cases hf : p.text[p.index + cs.length]?.any p.options.word.matchesOne = true
    · rw [if_pos hf, if_neg (by simp [hf])]
      exact ⟨rfl, hu⟩
    · rw [if_neg hf, if_pos (by simp [hf])]
      exact ⟨rfl, advance_looked hcs hu⟩
  · simp only [if_neg hcs] at ht ⊢
    exact ⟨rfl, ht⟩

/-! ## Patterns -/

/-- The loop stops at a unit that starts at the given byte, given fuel for the units before it. -/
theorem takeTo (h : Tracks s p) (n fuel : Nat) (hn : p.index + n ≤ p.text.length)
    (hfuel : n ≤ fuel) : Tracks (Scanner.takeTo (p.startOf (p.index + n)) fuel s).2 (p.pass n) := by
  induction fuel generalizing s p n with
  | zero =>
    rw [Nat.le_zero.mp hfuel, h.pass_zero]
    exact h
  | succ fuel ih =>
    rw [Scanner.takeTo, Scan.get_bind_apply, h.offset_eq]
    cases n with
    | zero =>
      have hstop : ¬p.offset < p.startOf (p.index + 0) := Nat.lt_irrefl _
      rw [if_neg hstop, h.pass_zero]
      exact h
    | succ n =>
      have hlt : p.offset < p.startOf (p.index + (n + 1)) := Text.width_take_lt (by omega) hn
      have hc := List.getElem?_eq_getElem (l := p.text) (i := p.index) (by omega)
      rw [if_pos hlt]
      refine (Agree.bind (h.next_of_some hc) fun t ht => ?_ : Agree _ ((), p.pass (n + 1))).2
      have hsum : p.index + (n + 1) = p.index + 1 + n := by omega
      have hih := ih ht n (hsum ▸ hn) (Nat.le_of_succ_le_succ hfuel)
      rw [p.pass_add, Nat.add_comm 1 n] at hih
      rw [hsum]
      exact ⟨rfl, hih⟩

theorem acceptPattern (h : Tracks s p) (r : Pattern) :
    Agree (s.acceptPattern r) (p.acceptPattern r) := by
  rw [Scanner.acceptPattern, Scan.get_bind_apply, h.text_eq, h.offset_eq]
  unfold Position.acceptPattern
  cases hm : r.applyAt? p.text p.offset with
  | none => exact ⟨rfl, h⟩
  | some m =>
    obtain ⟨k, n, hle, hoffset, hstop⟩ := r.stop_of_applyAt? hm
    obtain rfl : p.index = k := Text.width_take_inj h.index_le_length (by omega) hoffset
    have hlen := h.length_rest
    have hto := h.takeTo n s.remaining hle (by rw [h.remaining_eq]; omega)
    have hpass : (Text.takeBytes m.stop p.text).length - p.index = n := by
      rw [hstop, Text.takeBytes_width_take, List.length_take]
      omega
    simp only [hpass]
    refine Agree.bind (y := ((), p.pass n)) ⟨rfl, ?_⟩ fun t ht => ⟨rfl, ht⟩
    rw [hstop]
    exact hto

/-! ## Going back -/

/-- Held units are as wide as the units of the text in their places. -/
theorem widthFrom_eq (h : Tracks s p) {i n : Nat} (hi : p.low ≤ i) (hn : i + n ≤ p.high) :
    s.widthFrom i n = Text.width ((p.text.drop i).take n) := by
  have hget : ∀ k, k < n → s.window.get? (i + k) = (p.text.drop i)[k]? := by
    intro k hk
    rw [h.holds.get?_eq, h.oldest_eq, if_pos (by omega), List.getElem?_take_of_lt (by omega),
      List.getElem?_drop]
  rw [widthFrom, filterMap_range_eq_take _ hget]

/-- Reckoning from the cursor finds the byte of every unit that is held, and takes no more from the
offset than there is. -/
theorem startOf_eq (h : Tracks s p) {i : Nat} (hlow : p.low ≤ i) (hhigh : i ≤ p.high) :
    s.startOf i = p.startOf i := by
  have hle := h.index_le
  unfold Scanner.startOf consumed
  rw [h.cursor_eq, h.offset_eq]
  split
  · next hi =>
    rw [h.widthFrom_eq hlow (by omega), Position.offset, Position.startOf,
      Text.width_take_of_le p.text hi]
    exact Nat.add_sub_cancel ..
  · next hi =>
    rw [h.widthFrom_eq h.low_le (by omega)]
    exact (Text.width_take_of_le p.text (Nat.le_of_not_le hi)).symm

theorem here_eq (h : Tracks s p) : s.here = p.here := by
  rw [here, h.cursor_eq, h.offset_eq]
  rfl

/-- What is checked before a checkpoint is gone to, in order. -/
theorem rewind_apply (s : Scanner) (c : Checkpoint) :
    s.rewind c =
      match s.window.admits c.cursor with
      | .error e => (.error e, s)
      | .ok () =>
        if c.offset ≠ s.startOf c.cursor then
          (.error (.mismatch c.cursor c.offset (s.startOf c.cursor)), s)
        else
          match s.window.rewind c.cursor with
          | .error e => (.error e, s)
          | .ok w => (.ok (), { s with
              window := w.note (.offsetRestored s.offset c.offset)
              offset := c.offset }) := by
  show ExceptT.bind (m := StateM Scanner) (ofExcept (s.window.admits c.cursor)) _ s = _
  cases s.window.admits c.cursor with
  | error e => rfl
  | ok u =>
    by_cases hc : c.offset ≠ s.startOf c.cursor
    · simp only [if_pos hc]
      show (if c.offset ≠ s.startOf c.cursor then _ else _ : StateM Scanner _) s = _
      rw [if_pos hc]
      rfl
    · simp only [if_neg hc]
      show (if c.offset ≠ s.startOf c.cursor then _ else _ : StateM Scanner _) s = _
      rw [if_neg hc]
      show ExceptT.bind (m := StateM Scanner) (ofExcept (s.window.rewind c.cursor)) _ s = _
      cases s.window.rewind c.cursor with
      | error e => rfl
      | ok w => rfl

/-- The window admits the indices between the marks. -/
theorem admits_eq (h : Tracks s p) (i : Nat) :
    s.window.admits i =
      if p.low ≤ i ∧ i ≤ p.high then .ok () else .error (.outOfRange i p.low p.high) := by
  rw [Window.admits, h.oldest_eq, h.arrived_eq]

/-- A checkpoint is refused for its index first. -/
theorem rewind_outside (h : Tracks s p) {c : Checkpoint}
    (hout : c.cursor < p.low ∨ p.high < c.cursor) :
    s.rewind c = (.error (.outOfRange c.cursor p.low p.high), s) := by
  have hadmits := h.admits_eq c.cursor
  rw [if_neg (by omega)] at hadmits
  rw [rewind_apply, hadmits]

/-- Then it is refused for its offset. -/
theorem rewind_elsewhere (h : Tracks s p) {c : Checkpoint} (hlow : p.low ≤ c.cursor)
    (hhigh : c.cursor ≤ p.high) (hne : c.offset ≠ p.startOf c.cursor) :
    s.rewind c = (.error (.mismatch c.cursor c.offset (p.startOf c.cursor)), s) := by
  have hadmits := h.admits_eq c.cursor
  rw [if_pos ⟨hlow, hhigh⟩] at hadmits
  rw [rewind_apply, hadmits, h.startOf_eq hlow hhigh]
  exact if_pos hne

/-- Otherwise it is gone to. -/
theorem rewind_admitted (h : Tracks s p) {c : Checkpoint} (hlow : p.low ≤ c.cursor)
    (hhigh : c.cursor ≤ p.high) (heq : c.offset = p.startOf c.cursor) :
    ∃ t, s.rewind c = (.ok (), t) ∧ s.MovesTo c t ∧ Tracks t (p.goTo c.cursor) := by
  have hadmits := h.admits_eq c.cursor
  rw [if_pos ⟨hlow, hhigh⟩] at hadmits
  obtain ⟨w, hw, hcursor, holdest, hring, hjournal⟩ := Window.rewind_of_admits hadmits
  refine ⟨{ s with
    window := w.note (.offsetRestored s.offset c.offset)
    offset := c.offset }, ?_, ?_, ?_⟩
  · rw [rewind_apply, hadmits, h.startOf_eq hlow hhigh, hw]
    exact if_neg (not_not_intro heq)
  · exact
      { text_eq := rfl
        unread_eq := rfl
        options_eq := rfl
        ring_eq := hring
        oldest_eq := holdest
        cursor_eq := hcursor
        offset_eq := rfl
        journal_eq := by
          show w.journal ++ [_] = _
          rw [hjournal, List.append_assoc]
          rfl }
  · exact
      { text_eq := h.text_eq
        options_eq := h.options_eq
        cursor_eq := hcursor
        oldest_eq := holdest.trans h.oldest_eq
        high_le := h.high_le
        holds := (h.holds.rewind hw).note _
        unread_eq := h.unread_eq
        offset_eq := heq }

theorem rewind (h : Tracks s p) (c : Checkpoint) : Agree (s.rewind c) (p.rewind c) := by
  unfold Position.rewind
  by_cases hin : p.low ≤ c.cursor ∧ c.cursor ≤ p.high
  · rw [if_pos hin]
    by_cases heq : c.offset = p.startOf c.cursor
    · obtain ⟨t, ht, -, htracks⟩ := h.rewind_admitted hin.1 hin.2 heq
      rw [if_pos heq, ht]
      exact ⟨rfl, htracks⟩
    · rw [if_neg heq, h.rewind_elsewhere hin.1 hin.2 heq]
      exact ⟨rfl, h⟩
  · rw [if_neg hin, h.rewind_outside (by omega)]
    exact ⟨rfl, h⟩

/-- A checkpoint is refused in place or gone to. -/
theorem rewind_cases (h : Tracks s p) (c : Checkpoint) :
    (∃ e, s.rewind c = (.error e, s)) ∨
      ∃ t, s.rewind c = (.ok (), t) ∧ s.MovesTo c t ∧ Tracks t (p.goTo c.cursor) := by
  by_cases hin : p.low ≤ c.cursor ∧ c.cursor ≤ p.high
  · by_cases heq : c.offset = p.startOf c.cursor
    · exact .inr (h.rewind_admitted hin.1 hin.2 heq)
    · exact .inl ⟨_, h.rewind_elsewhere hin.1 hin.2 heq⟩
  · exact .inl ⟨_, h.rewind_outside (by omega)⟩

theorem release (h : Tracks s p) : Agree s.release p.release := by
  refine ⟨?_, ?_⟩
  · show s.window.behind = p.index - p.low
    rw [Window.behind, h.cursor_eq, h.oldest_eq]
  · exact
      { text_eq := h.text_eq
        options_eq := h.options_eq
        cursor_eq := h.cursor_eq
        oldest_eq := h.cursor_eq
        high_le := h.high_le
        holds := h.holds.release
        unread_eq := h.unread_eq
        offset_eq := h.offset_eq }

theorem knows_here (h : Tracks s p) : p.Knows p.here := ⟨h.index_le, rfl⟩

/-- A rule that fails is undone unless its start has been let go. A start that is known is not
refused for another reason. -/
theorem settle (h : Tracks s p) {start : Checkpoint} (hknows : p.Knows start)
    (outcome : Option Unit) :
    Agree (Scanner.settle start outcome s) (p.settle start outcome) := by
  cases outcome with
  | some a => exact ⟨rfl, h⟩
  | none =>
    refine (h.rewind start).bind fun t ht => ?_
    rw [hknows.rewind_eq] at ht ⊢
    unfold Position.settle
    by_cases hlow : p.low ≤ start.cursor
    · simp only [if_pos hlow] at ht ⊢
      exact ⟨rfl, ht⟩
    · simp only [if_neg hlow] at ht ⊢
      exact ⟨rfl, ht⟩

end Tracks

end Rewind.Scanner
