import Rewind.Proofs.Scanner.Checkpoints
import Rewind.Scanner.Session

/-! How far a scanner pulls. A unit is pulled when it is first needed and never before, so what an
action pulls can be told beforehand from the text and what the action is about to find there
(`horizon`). After the action the scanner has pulled to the horizon, or to the end of the text, or
no further than it had already (`pullsToHorizon_reached`). -/
namespace Rewind

namespace Scanner

/-- The index before which the units are needed to compare a text with what comes next: all that it
is long, or up to the first difference. -/
def horizonOfText (s : Scanner) (cs : List Char) : Nat :=
  if cs <+: s.rest then s.consumed + cs.length
  else s.consumed + Position.agreement cs s.rest + 1

/-- The index before which an action needs the units. -/
def horizon (s : Scanner) : Action → Nat
  | .next | .peek | .accept _ => s.consumed + 1
  | .lookAhead n => s.consumed + n + 1
  | .advance n => s.consumed + n
  | .takeWhile f => s.consumed + (s.takeWhile f).1.length + 1
  | .takeUntil f => s.consumed + (s.takeUntil f).1.length + 1
  | .takeSpace => s.consumed + s.takeSpace.1.length + 1
  | .takeWord => s.consumed + s.takeWord.1.length + 1
  | .startsWith cs | .acceptText cs => s.horizonOfText cs
  | .acceptBefore cs _ | .acceptKeyword cs =>
    if cs <+: s.rest then s.consumed + cs.length + 1 else s.horizonOfText cs
  | .acceptPattern r =>
    match (s.acceptPattern r).1 with
    | some m => s.consumed + m.matched.length
    | none => 0
  | .here | .rewind _ | .release => 0

/-- What is needed is pulled and nothing else. -/
structure PullsToHorizon (s : Scanner) : Prop where
  act : ∀ a, (s.act a).2.window.arrived =
    max s.window.arrived (min s.text.length (s.horizon a))
  /-- What was pulled went through the window. -/
  pulled : s.pulled = s.window.arrived
  /-- Questions about the text to come and about the classes of units pull nothing. -/
  asked : ∀ saved c, ∀ q ∈ [Session.Command.rest, .inWord c, .inSpace c],
    (Session.perform q ⟨s, saved⟩).2.scanner.window.arrived = s.window.arrived

end Scanner

namespace Position

variable {p : Position}

theorem high_pass (p : Position) (n : Nat) :
    (p.pass n).high = max p.high (min p.text.length (p.index + n)) := rfl

/-- Going over units and looking at the one behind them is to look as far as that one. -/
theorem high_pass_see (p : Position) (n : Nat) :
    ((p.pass n).see (p.index + n + 1)).high = max p.high (min p.text.length (p.index + n + 1)) := by
  simp only [see, pass, goTo]
  omega

/-- Units behind the end are not there to be looked at. -/
theorem high_advance (h : p.index + p.rest.length = p.text.length) (n : Nat) :
    (p.advance n).2.high = max p.high (min p.text.length (p.index + n)) := by
  simp only [advance, high_pass]
  omega

theorem high_acceptIf (cs : List Char) (f : Option Char → Bool) (p : Position) :
    (p.acceptIf cs f).2.high = max p.high (min p.text.length
      (if cs <+: p.rest then p.index + cs.length + 1
        else p.index + compared cs p.rest)) := by
  unfold acceptIf
  split
  · split
    · exact p.high_pass_see cs.length
    · rfl
  · rfl

theorem high_acceptText (cs : List Char) (p : Position) :
    (p.acceptText cs).2.high =
      max p.high (min p.text.length (p.index + compared cs p.rest)) := by
  unfold acceptText
  split
  · next hcs =>
    have hall := compared_of_prefix hcs
    rw [hall, high_pass]
  · rfl

/-- A match that succeeds goes over as many units as it takes. -/
theorem high_acceptPattern (hle : p.index ≤ p.text.length) {r : Pattern} {m : Match}
    (hm : r.applyAt? p.text p.offset = some m) :
    (p.acceptPattern r).2.high =
      max p.high (min p.text.length (p.index + m.matched.length)) := by
  obtain ⟨k, n, hk, hoffset, hstop⟩ := r.stop_of_applyAt? hm
  obtain rfl : p.index = k := Text.width_take_inj hle (by omega) hoffset
  obtain ⟨htext, hstart⟩ := r.start_of_applyAt? hm
  have hmatched : m.matched.length = n := by
    rw [Match.matched, htext, hstart, hstop, hoffset, Text.slice_width_take, List.length_take,
      List.length_drop]
    omega
  have htaken : (Text.takeBytes m.stop p.text).length = p.index + n := by
    rw [hstop, Text.takeBytes_width_take, List.length_take]
    omega
  simp only [acceptPattern, hm, high_pass, hmatched, htaken]
  omega

end Position

namespace Scanner.Tracks

variable {s : Scanner} {p : Position}

theorem horizonOfText_eq (h : Tracks s p) (cs : List Char) :
    s.horizonOfText cs = p.index + Position.compared cs p.rest := by
  unfold horizonOfText Position.compared
  rw [h.rest_eq, consumed, h.cursor_eq]
  split
  · rfl
  · exact Nat.add_assoc ..

/-- One action looks as far as its horizon. -/
theorem high_act (h : Tracks s p) (a : Action) :
    (p.act a).2.high = max p.high (min p.text.length (s.horizon a)) := by
  have hconsumed : s.consumed = p.index := h.cursor_eq
  have hlen := h.length_rest
  have hle := h.high_le
  have hstay : max p.high (min p.text.length 0) = p.high := by omega
  cases a with
  | next =>
    simp only [horizon, hconsumed]
    exact Position.high_advance hlen 1
  | accept c =>
    simp only [horizon, hconsumed, Position.act, Position.accept]
    split <;> rfl
  | advance n =>
    simp only [horizon, hconsumed]
    exact Position.high_advance hlen n
  | peek | lookAhead n =>
    simp only [horizon, hconsumed]
    rfl
  | takeWhile f =>
    simp only [horizon, hconsumed, (h.takeWhile f).1]
    exact p.high_pass_see _
  | takeUntil f =>
    simp only [horizon, hconsumed, (h.takeUntil f).1]
    exact p.high_pass_see _
  | takeSpace =>
    simp only [horizon, hconsumed, h.takeSpace.1]
    exact p.high_pass_see _
  | takeWord =>
    simp only [horizon, hconsumed, h.takeWord.1]
    exact p.high_pass_see _
  | startsWith cs =>
    simp only [horizon, h.horizonOfText_eq]
    rfl
  | acceptText cs =>
    simp only [horizon, h.horizonOfText_eq]
    exact p.high_acceptText cs
  | acceptBefore cs f =>
    simp only [horizon, h.horizonOfText_eq, h.rest_eq, hconsumed]
    exact p.high_acceptIf cs _
  | acceptKeyword cs =>
    simp only [horizon, h.horizonOfText_eq, h.rest_eq, hconsumed]
    exact p.high_acceptIf cs fun after => !after.any p.options.word.matchesOne
  | acceptPattern r =>
    have hanswer := (h.acceptPattern r).1
    simp only [horizon, hanswer]
    cases hm : r.applyAt? p.text p.offset with
    | none =>
      simp only [Position.act, Position.acceptPattern, hm]
      exact hstay.symm
    | some m =>
      have hfound : (p.acceptPattern r).1 = some m := by simp only [Position.acceptPattern, hm]
      simp only [hfound, hconsumed]
      exact Position.high_acceptPattern h.index_le_length hm
  | here | release => exact hstay.symm
  | rewind c =>
    simp only [horizon, hstay, Position.act, Position.rewind]
    split
    · split <;> rfl
    · rfl

theorem pullsToHorizon (h : Tracks s p) : s.PullsToHorizon where
  act a := by
    rw [(h.act a).2.arrived_eq, h.arrived_eq, h.text_eq]
    exact h.high_act a
  pulled := h.pulled_eq.trans h.arrived_eq.symm
  asked saved c q hq := by
    simp only [List.mem_cons, List.not_mem_nil, or_false] at hq
    rcases hq with rfl | rfl | rfl <;> rfl

end Scanner.Tracks

/-- The law of laziness, wherever moves get a scanner. -/
theorem Course.pullsToHorizon_reached (text : List Char) (options : Options) (ms : List Move) :
    (reached text options ms).PullsToHorizon :=
  (tracks_reached text options ms).pullsToHorizon

end Rewind
