import Rewind.Proofs.Scanner.Position
import Rewind.Proofs.Text.Offset
import Rewind.Proofs.Window.Log

/-! A scanner tracks a position. The units before the mark `high` are the log of its window, those
behind it are unread, and the offset is that of the unit at the index. This file follows the
operations by which a scanner pulls units and moves over them. -/
namespace Rewind.Scanner

/-- The scanner stands at a position. -/
structure Tracks (s : Scanner) (p : Position) : Prop where
  text_eq : s.text = p.text
  options_eq : s.options = p.options
  cursor_eq : s.window.cursor = p.index
  oldest_eq : s.window.oldest = p.low
  high_le : p.high ≤ p.text.length
  holds : s.window.Holds (p.text.take p.high)
  unread_eq : s.unread = p.text.drop p.high
  offset_eq : s.offset = p.offset

/-- Two outcomes are the same and the scanner tracks the position. -/
def Agree {α : Type} (x : α × Scanner) (y : α × Position) : Prop := x.1 = y.1 ∧ Tracks x.2 y.2

theorem tracks_ofText (text : List Char) (options : Options) :
    Tracks (.ofText text options) (.ofText text options) where
  text_eq := rfl
  options_eq := rfl
  cursor_eq := rfl
  oldest_eq := rfl
  high_le := Nat.zero_le _
  holds := Window.holds_empty
  unread_eq := rfl
  offset_eq := rfl

namespace Tracks

variable {s : Scanner} {p : Position}

theorem length_log (h : Tracks s p) : (p.text.take p.high).length = p.high := by
  rw [List.length_take, Nat.min_eq_left h.high_le]

theorem arrived_eq (h : Tracks s p) : s.window.arrived = p.high :=
  h.holds.arrived.trans h.length_log

theorem index_le (h : Tracks s p) : p.index ≤ p.high := by
  rw [← h.cursor_eq, ← h.arrived_eq]
  exact s.window.cursor_le_arrived

theorem low_le (h : Tracks s p) : p.low ≤ p.index := by
  rw [← h.cursor_eq, ← h.oldest_eq]
  exact s.window.oldest_le

theorem index_le_length (h : Tracks s p) : p.index ≤ p.text.length :=
  Nat.le_trans h.index_le h.high_le

theorem ahead_eq (h : Tracks s p) : s.window.ahead = p.high - p.index := by
  rw [h.holds.ahead_eq, h.length_log, h.cursor_eq]

theorem length_rest (h : Tracks s p) : p.index + p.rest.length = p.text.length := by
  have := h.index_le_length
  rw [Position.rest, List.length_drop]
  omega

theorem remaining_eq (h : Tracks s p) : s.remaining = p.rest.length := by
  have h1 := h.index_le
  have h2 := h.high_le
  have h3 := h.length_rest
  rw [remaining, h.ahead_eq, h.unread_eq, List.length_drop]
  omega

/-- Looking at units that have been looked at changes nothing. -/
theorem see_eq_self (h : Tracks s p) {i : Nat} (hi : min p.text.length i ≤ p.high) :
    p.see i = p := by
  have := h.high_le
  ext1 <;> simp only [Position.see]
  omega

/-! ## Pulling -/

theorem pull (h : Tracks s p) (n : Nat) :
    Tracks (s.pull n) { p with high := min p.text.length (p.high + n) } := by
  induction n generalizing s p with
  | zero =>
    rw [Nat.add_zero, Nat.min_eq_right h.high_le]
    exact h
  | succ n ih =>
    have hle := h.high_le
    unfold Scanner.pull
    split
    · next hu =>
      have hend : p.text.length ≤ p.high := List.drop_eq_nil_iff.mp (h.unread_eq.symm.trans hu)
      rw [show min p.text.length (p.high + (n + 1)) = p.high by omega]
      exact h
    · next c cs hu =>
      have hcons : p.text.drop p.high = c :: cs := h.unread_eq.symm.trans hu
      have hlt : p.high < p.text.length := by
        have := congrArg List.length hcons
        simp only [List.length_drop, List.length_cons] at this
        omega
      have hlog : p.text.take (p.high + 1) = p.text.take p.high ++ [c] := by
        rw [List.take_add, hcons, List.take_succ_cons, List.take_zero]
      have hone : Tracks { s with unread := cs, window := s.window.push c }
          { p with high := p.high + 1 } :=
        { text_eq := h.text_eq
          options_eq := h.options_eq
          cursor_eq := (Window.cursor_push ..).trans h.cursor_eq
          oldest_eq := (Window.oldest_push ..).trans h.oldest_eq
          high_le := hlt
          holds := by
            show (s.window.push c).Holds (p.text.take (p.high + 1))
            rw [hlog]
            exact h.holds.push c
          unread_eq := by
            show cs = p.text.drop (p.high + 1)
            rw [← List.drop_drop, hcons, List.drop_succ_cons, List.drop_zero]
          offset_eq := h.offset_eq }
      have := ih hone
      rwa [Nat.add_assoc, Nat.add_comm 1 n] at this

theorem demand (h : Tracks s p) (n : Nat) : Tracks (s.demand n) (p.see (p.index + n)) := by
  have h1 := h.index_le
  have h2 := h.high_le
  have hp : p.see (p.index + n) =
      { p with high := min p.text.length (p.high + (n - s.window.ahead)) } := by
    ext1 <;> simp only [Position.see, h.ahead_eq]
    omega
  rw [hp]
  exact h.pull _

/-- The units in the window are those of the text, as far as it has been looked at. -/
theorem peek?_eq (h : Tracks s p) {n : Nat} (hn : p.index + n < p.high ∨ p.high = p.text.length) :
    s.window.peek? n = p.text[p.index + n]? := by
  rw [h.holds.peek?_eq, h.cursor_eq, List.getElem?_take]
  split
  · rfl
  · rw [List.getElem?_eq_none (by omega)]

theorem lookAhead (h : Tracks s p) (n : Nat) : Agree (s.lookAhead n) (p.lookAhead n) := by
  have hd := h.demand (n + 1)
  refine ⟨hd.peek?_eq ?_, hd⟩
  have := h.high_le
  simp only [Position.see]
  omega

/-! ## Moving -/

/-- The cursor goes over units in the window, and the offset over their bytes. -/
theorem goOver (h : Tracks s p) {n : Nat} (hn : p.index + n ≤ p.high) :
    Tracks { s with
      window := s.window.advance n
      offset := s.offset + Text.width (p.rest.take n) } (p.goTo (p.index + n)) where
  text_eq := h.text_eq
  options_eq := h.options_eq
  cursor_eq := by
    show s.window.cursor + min n s.window.ahead = p.index + n
    rw [h.ahead_eq, h.cursor_eq]
    omega
  oldest_eq := h.oldest_eq
  high_le := h.high_le
  holds := h.holds.advance n
  unread_eq := h.unread_eq
  offset_eq := by
    show s.offset + Text.width (p.rest.take n) = Text.width (p.text.take (p.index + n))
    rw [h.offset_eq, Text.width_take_add]
    rfl

theorem pass_zero (h : Tracks s p) : p.pass 0 = p := by
  have h1 := h.index_le
  have h2 := h.high_le
  ext1 <;> simp only [Position.pass, Position.see, Position.goTo]
  · rfl
  · omega

theorem next_of_some (h : Tracks s p) {c : Char} (hc : p.text[p.index]? = some c) :
    Agree s.next (some c, p.pass 1) := by
  have hd := h.demand 1
  have hpeek : (s.demand 1).window.peek? 0 = some c := (h.lookAhead 0).1.trans hc
  have hlt := (List.getElem?_eq_some_iff.mp hc).1
  have hover := hd.goOver (n := 1) (by simp only [Position.see]; omega)
  have hone : Text.width ((p.see (p.index + 1)).rest.take 1) = c.utf8Size := by
    show Text.width (p.rest.take 1) = c.utf8Size
    rw [Position.rest_cons hc]
    rfl
  rw [hone] at hover
  unfold Scanner.next Window.next
  simp only [hpeek]
  exact ⟨rfl, hover⟩

theorem next_of_none (h : Tracks s p) (hc : p.text[p.index]? = none) :
    Agree s.next (none, p) := by
  have hd := h.demand 1
  have hpeek : (s.demand 1).window.peek? 0 = none := (h.lookAhead 0).1.trans hc
  have hlen := List.getElem?_eq_none_iff.mp hc
  have hle := h.index_le
  rw [h.see_eq_self (by omega)] at hd
  unfold Scanner.next Window.next
  simp only [hpeek]
  exact ⟨rfl, hd⟩

theorem next (h : Tracks s p) : Agree s.next p.next := by
  unfold Position.next
  cases hc : p.text[p.index]? with
  | none =>
    rw [Position.advance, Position.rest_nil hc, List.length_nil, Nat.min_zero, h.pass_zero]
    exact h.next_of_none hc
  | some c =>
    rw [Position.advance_of_le (by rw [Position.rest_cons hc]; exact Nat.le_add_left ..)]
    exact h.next_of_some hc

theorem nextUpTo (h : Tracks s p) (n : Nat) : Agree (s.nextUpTo n) (p.advance n) := by
  induction n generalizing s p with
  | zero =>
    rw [Position.advance, Nat.zero_min, h.pass_zero]
    exact ⟨rfl, h⟩
  | succ n ih =>
    unfold Scanner.nextUpTo
    cases hc : p.text[p.index]? with
    | none =>
      obtain ⟨hres, htracks⟩ := h.next_of_none hc
      rw [show s.next = (none, s.next.2) from Prod.ext hres rfl]
      rw [Position.advance, Position.rest_nil hc, List.length_nil, Nat.min_zero, h.pass_zero]
      exact ⟨rfl, htracks⟩
    | some c =>
      obtain ⟨hres, htracks⟩ := h.next_of_some hc
      rw [show s.next = (some c, s.next.2) from Prod.ext hres rfl]
      obtain ⟨hcount, hend⟩ := ih htracks
      rw [Position.advance_succ hc]
      exact ⟨congrArg (· + 1) hcount, hend⟩

/-- The units in the window from the cursor on are the next ones of the text. -/
theorem take_toList (h : Tracks s p) {n : Nat} (hn : n ≤ s.window.ahead) :
    s.window.toList.take n = p.rest.take n := by
  rw [h.ahead_eq] at hn
  rw [h.holds.toList_eq, h.cursor_eq, List.drop_take, List.take_take, Nat.min_eq_left hn]
  rfl

theorem advance (h : Tracks s p) (n : Nat) : Agree (s.advance n) (p.advance n) := by
  have h1 := h.index_le
  have h2 := h.high_le
  have h3 := h.length_rest
  have hk : min n s.window.ahead ≤ p.high - p.index := h.ahead_eq ▸ Nat.min_le_right ..
  have hover := h.goOver (n := min n s.window.ahead) (by omega)
  rw [← h.take_toList (Nat.min_le_right ..)] at hover
  obtain ⟨hcount, hend⟩ := hover.nextUpTo (n - min n s.window.ahead)
  have hrest : (p.goTo (p.index + min n s.window.ahead)).rest.length =
      p.rest.length - min n s.window.ahead := by
    simp only [Position.rest, Position.goTo, List.length_drop]
    omega
  simp only [Position.advance, hrest] at hcount hend
  refine ⟨?_, ?_⟩
  · show min n s.window.ahead + _ = min n p.rest.length
    rw [hcount]
    omega
  · -- the units in the window and those behind it make up one move
    have hpass : (p.goTo (p.index + min n s.window.ahead)).pass
        (min (n - min n s.window.ahead) (p.rest.length - min n s.window.ahead)) =
        p.pass (min n p.rest.length) := by
      ext1 <;> simp only [Position.pass, Position.see, Position.goTo]
      · omega
      · omega
    rw [hpass] at hend
    exact hend

end Tracks

/-- What follows a step goes on from the position that the step leads to. -/
theorem Agree.bind {α β : Type} {m : Scan α} {k : α → Scan β} {s : Scanner} {y : α × Position}
    {z : β × Position} (hm : Agree (m s) y) (hk : ∀ t, Tracks t y.2 → Agree (k y.1 t) z) :
    Agree ((m >>= k) s) z := by
  rw [Scan.bind_apply, hm.1]
  exact hk _ hm.2

end Rewind.Scanner
