import Rewind.Proofs.Scanner.Refinement

/-! Advancing is reading. Units that are held are gone over in one move and those behind them are read
one by one, but nothing of this can be told afterwards: the scanner is the same, slot for slot, as if
each unit had been read by itself (`advancesAsReading_reached`). -/
namespace Rewind

namespace Scanner

/-- Takes the next unit `n` times, there being one or not. -/
def nextTimes : Nat → Scan (List (Option Char))
  | 0, s => ([], s)
  | n + 1, s => (s.next.1 :: (nextTimes n s.next.2).1, (nextTimes n s.next.2).2)

def unitCount (cs : List (Option Char)) : Nat := cs.countP Option.isSome

/-- Goes over units that are held, in one move. -/
def leap (s : Scanner) (n : Nat) : Scanner :=
  { s with
    window := s.window.advance n
    offset := s.offset + Text.width (s.window.toList.take n) }

structure AdvancesAsReading (s : Scanner) (n : Nat) : Prop where
  /-- The outcome and the whole state are those of reading `n` times. -/
  advance_eq : s.advance n = (unitCount (s.nextTimes n).1, (s.nextTimes n).2)
  count_eq : (s.advance n).1 = min n (s.text.length - s.consumed)
  /-- The bytes of the units in the window are summed up before the cursor moves. -/
  sum_le : s.offset + Text.width (s.window.toList.take (min n s.window.ahead)) ≤
    Text.width s.text
  /-- On the way no offset or index gets behind the end, and no count over what was asked for. -/
  within : ∀ k, k ≤ n → (s.nextTimes k).2.offset ≤ Text.width s.text ∧
    (s.nextTimes k).2.consumed ≤ s.text.length ∧ unitCount (s.nextTimes k).1 ≤ n

end Scanner

namespace Window

variable {α : Type}

theorem advance_zero (w : Window α) : w.advance 0 = w := by
  simp only [advance, Nat.zero_min, Nat.add_zero]

/-- Two moves over units that are there make up one. -/
theorem advance_advance (w : Window α) {m n : Nat} (h : m + n ≤ w.ahead) :
    (w.advance m).advance n = w.advance (m + n) := by
  have hcursor : w.cursor + min m w.ahead +
      min n (w.arrived - (w.cursor + min m w.ahead)) = w.cursor + min (m + n) w.ahead := by
    unfold ahead at h ⊢
    omega
  simp only [advance, ahead, arrived] at hcursor ⊢
  simp only [hcursor]

theorem toList_advance (w : Window α) {n : Nat} (h : n ≤ w.ahead) :
    (w.advance n).toList = w.toList.drop n := by
  have hle := w.oldest_le
  unfold toList
  rw [List.drop_drop]
  show w.ring.toList.drop (w.cursor + min n w.ahead - w.oldest) = _
  congr 1
  omega

theorem ahead_advance (w : Window α) (n : Nat) : (w.advance n).ahead = w.ahead - n := by
  have hle := w.cursor_le_arrived
  show w.arrived - (w.cursor + min n w.ahead) = w.arrived - w.cursor - n
  unfold ahead
  omega

end Window

namespace Scanner

theorem nextTimes_add (s : Scanner) (m n : Nat) :
    s.nextTimes (m + n) = ((s.nextTimes m).1 ++ ((s.nextTimes m).2.nextTimes n).1,
      ((s.nextTimes m).2.nextTimes n).2) := by
  induction m generalizing s with
  | zero =>
    rw [Nat.zero_add]
    rfl
  | succ m ih =>
    rw [Nat.succ_add]
    simp only [nextTimes, ih, List.cons_append]

theorem leap_zero (s : Scanner) : s.leap 0 = s := by
  simp only [leap, Window.advance_zero, List.take_zero, Text.width, Nat.add_zero]

theorem leap_leap (s : Scanner) {m n : Nat} (h : m + n ≤ s.window.ahead) :
    (s.leap m).leap n = s.leap (m + n) := by
  have hlist : (s.window.advance m).toList = s.window.toList.drop m :=
    s.window.toList_advance (by omega)
  have hwidth := Text.width_take_add s.window.toList m n
  simp only [leap, Window.advance_advance _ h, hlist, hwidth, Nat.add_assoc]

/-- With as many units in the window as are asked for there is nothing to pull. -/
theorem demand_of_le (s : Scanner) {n : Nat} (h : n ≤ s.window.ahead) : s.demand n = s := by
  rw [demand, Nat.sub_eq_zero_of_le h]
  rfl

namespace Tracks

variable {s : Scanner} {p : Position}

/-- Reading a unit that is held is the shortest leap. -/
theorem next_of_held (h : Tracks s p) (hahead : 0 < s.window.ahead) :
    ∃ c, s.next = (some c, s.leap 1) := by
  have hahead' := h.ahead_eq
  have hle := h.high_le
  have hpeek := h.peek?_eq (n := 0) (.inl (by omega))
  have hc := List.getElem?_eq_getElem (l := p.text) (i := p.index) (by omega)
  rw [Nat.add_zero, hc] at hpeek
  refine ⟨p.text[p.index], ?_⟩
  have hwidth : Text.width (s.window.toList.take 1) = p.text[p.index].utf8Size := by
    rw [h.take_toList hahead, Position.rest_cons hc]
    rfl
  simp only [Scanner.next, s.demand_of_le hahead, Window.next, hpeek, leap, hwidth]

/-- At the end of the text reading does nothing. -/
theorem next_of_end (h : Tracks s p) (hend : p.text[p.index]? = none) : s.next = (none, s) := by
  have hlen := List.getElem?_eq_none_iff.mp hend
  have hunread : s.unread = [] := by
    rw [h.unread_eq]
    exact List.drop_eq_nil_of_le (Nat.le_trans hlen h.index_le)
  have hdemand : s.demand 1 = s := by
    unfold Scanner.demand
    cases 1 - s.window.ahead with
    | zero => rfl
    | succ n => simp only [Scanner.pull, hunread]
  have hpeek : s.window.peek? 0 = none :=
    (h.peek?_eq (.inr (Nat.le_antisymm h.high_le (Nat.le_trans hlen h.index_le)))).trans hend
  simp only [Scanner.next, hdemand, Window.next, hpeek]

theorem nextTimes_of_end (h : Tracks s p) (hend : p.text[p.index]? = none) (n : Nat) :
    s.nextTimes n = (List.replicate n none, s) := by
  induction n with
  | zero => rfl
  | succ n ih => simp only [Scanner.nextTimes, h.next_of_end hend, ih, List.replicate_succ]

/-- Held units may be read one by one or gone over in one move. -/
theorem nextTimes_of_held (h : Tracks s p) {n : Nat} (hn : n ≤ s.window.ahead) :
    (s.nextTimes n).2 = s.leap n ∧ unitCount (s.nextTimes n).1 = n := by
  induction n generalizing s p with
  | zero => exact ⟨s.leap_zero.symm, rfl⟩
  | succ n ih =>
    obtain ⟨c, hnext⟩ := h.next_of_held (by omega)
    have htracks := h.next.2
    rw [hnext] at htracks
    have hahead : (s.leap 1).window.ahead = s.window.ahead - 1 := s.window.ahead_advance 1
    obtain ⟨hstate, hcount⟩ := ih (s := s.leap 1) htracks (by omega)
    simp only [Scanner.nextTimes, hnext, unitCount] at hcount ⊢
    refine ⟨?_, ?_⟩
    · rw [hstate, s.leap_leap (by omega), Nat.add_comm]
    · rw [List.countP_cons_of_pos rfl, hcount]

/-- Reading until there is no unit left and reading on in vain come to the same. -/
theorem nextUpTo_eq (h : Tracks s p) (n : Nat) :
    s.nextUpTo n = (unitCount (s.nextTimes n).1, (s.nextTimes n).2) := by
  induction n generalizing s p with
  | zero => rfl
  | succ n ih =>
    cases hc : p.text[p.index]? with
    | none =>
      rw [h.nextTimes_of_end hc]
      simp only [Scanner.nextUpTo, h.next_of_end hc, unitCount]
      rw [List.countP_eq_zero.mpr fun x hx => by simp [List.eq_of_mem_replicate hx]]
    | some c =>
      obtain ⟨hres, htracks⟩ := h.next_of_some hc
      have hnext : s.next = (some c, s.next.2) := Prod.ext hres rfl
      rw [Scanner.nextUpTo, hnext]
      simp only [ih htracks, Scanner.nextTimes, hres, unitCount]
      rw [List.countP_cons_of_pos rfl]

theorem advance_eq (h : Tracks s p) (n : Nat) :
    s.advance n = (unitCount (s.nextTimes n).1, (s.nextTimes n).2) := by
  obtain ⟨hleap, hheld⟩ := h.nextTimes_of_held (Nat.min_le_right n s.window.ahead)
  have htracks := (h.nextUpTo (min n s.window.ahead)).2
  rw [h.nextUpTo_eq, hleap] at htracks
  have hsplit := s.nextTimes_add (min n s.window.ahead) (n - min n s.window.ahead)
  rw [Nat.add_sub_cancel' (Nat.min_le_left ..), hleap] at hsplit
  have hadvance : s.advance n =
      (min n s.window.ahead +
          ((s.leap (min n s.window.ahead)).nextUpTo (n - min n s.window.ahead)).1,
        ((s.leap (min n s.window.ahead)).nextUpTo (n - min n s.window.ahead)).2) := rfl
  simp only [unitCount] at hheld ⊢
  rw [hadvance, htracks.nextUpTo_eq, hsplit, unitCount, List.countP_append, hheld]

theorem offset_le (h : Tracks s p) : s.offset ≤ Text.width p.text := by
  rw [h.offset_eq, ← Text.width_take_add_drop p.text p.index]
  exact Nat.le_add_right ..

theorem advancesAsReading (h : Tracks s p) (n : Nat) : s.AdvancesAsReading n := by
  have hlen := h.length_rest
  have hconsumed : s.consumed = p.index := h.cursor_eq
  have hcount : ∀ k, unitCount (s.nextTimes k).1 = min k (s.text.length - s.consumed) := by
    intro k
    have hres := (h.nextUpTo k).1
    rw [h.nextUpTo_eq] at hres
    rw [show unitCount (s.nextTimes k).1 = min k p.rest.length from hres, h.text_eq, hconsumed]
    omega
  have hwithin : ∀ k, (s.nextTimes k).2.offset ≤ Text.width s.text ∧
      (s.nextTimes k).2.consumed ≤ s.text.length := by
    intro k
    have htracks := (h.nextUpTo k).2
    rw [h.nextUpTo_eq] at htracks
    have hcursor : (s.nextTimes k).2.consumed = (p.advance k).2.index := htracks.cursor_eq
    rw [h.text_eq, hcursor]
    exact ⟨htracks.offset_le, htracks.index_le_length⟩
  refine
    { advance_eq := h.advance_eq n
      count_eq := ?_
      sum_le := ?_
      within := ?_ }
  · rw [h.advance_eq]
    exact hcount n
  · have hleap := (h.nextTimes_of_held (Nat.min_le_right n s.window.ahead)).1
    have hle := (hwithin (min n s.window.ahead)).1
    rw [hleap] at hle
    exact hle
  · intro k hk
    refine ⟨(hwithin k).1, (hwithin k).2, ?_⟩
    rw [hcount]
    omega

end Tracks

end Scanner

/-- Advancing by any number of units is reading as many times, wherever moves get a scanner. -/
theorem Course.advancesAsReading_reached (text : List Char) (options : Options) (ms : List Move)
    (n : Nat) : (reached text options ms).AdvancesAsReading n :=
  (tracks_reached text options ms).advancesAsReading n

end Rewind
