import Rewind.Proofs.Scanner.Reading
import Rewind.Proofs.Script.Lexeme

/-! Quoted texts of scripts. What the pattern finds is the text up to the first quote that no backslash
takes with it, with the borders of group 1 between the quotes (`search_quoted`). -/
namespace Rewind.Script

open Program (Walk bare)

/-- What is between quotes, and what is left behind the closing one. The first character may have a
backslash before it. -/
def quotedBody (escaped : Bool) : List Char → Option (List Char × List Char)
  | [] => none
  | c :: cs =>
    if escaped then
      if c = '\n' then none else (quotedBody false cs).map fun x => (c :: x.1, x.2)
    else if c = '"' then some ([], cs)
    else (quotedBody (c = '\\') cs).map fun x => (c :: x.1, x.2)

/-- A quoted text: what is between its quotes, and what is left. -/
def readQuoted : Reading (List Char)
  | [] => none
  | c :: cs => if c = '"' then quotedBody false cs else none

theorem quotedBody_append {escaped : Bool} {cs body rest : List Char}
    (h : quotedBody escaped cs = some (body, rest)) : body ++ '"' :: rest = cs := by
  induction cs generalizing escaped body with
  | nil => cases h
  | cons c cs ih =>
    rw [quotedBody] at h
    split at h
    · split at h
      · cases h
      · obtain ⟨x, hx, hout⟩ := Option.map_eq_some_iff.mp h
        cases hout
        exact congrArg (c :: ·) (ih hx)
    · split at h
      · next hc =>
        cases h
        rw [hc]
        rfl
      · obtain ⟨x, hx, hout⟩ := Option.map_eq_some_iff.mp h
        cases hout
        exact congrArg (c :: ·) (ih hx)

theorem readQuoted_append {cs body rest : List Char} (h : readQuoted cs = some (body, rest)) :
    '"' :: (body ++ '"' :: rest) = cs := by
  cases cs with
  | nil => cases h
  | cons c cs =>
    rw [readQuoted] at h
    split at h
    · next hc => rw [quotedBody_append h, hc]
    · cases h

/-! ## What the pattern finds -/

theorem plainSet_contains (c : Char) : plainSet.contains c = decide (c ≠ '"' ∧ c ≠ '\\') := by
  have hranges : plainSet.ranges = [(0, 33), (35, 91), (93, 55295), (57344, 1114111)] := by decide
  have hquote : c = '"' ↔ c.toNat = 34 := Char.toNat_inj.symm
  have hbackslash : c = '\\' ↔ c.toNat = 92 := Char.toNat_inj.symm
  have hvalid : c.toNat < 55296 ∨ 57343 < c.toNat ∧ c.toNat < 1114112 := c.valid
  rw [Bool.eq_iff_iff]
  simp only [CharSet.contains, CharSet.holds, hranges, List.any_cons, List.any_nil, Bool.or_false,
    Bool.or_eq_true, Bool.and_eq_true, Nat.ble_eq, decide_eq_true_iff, ne_eq, hquote, hbackslash]
  omega

theorem escapedSet_contains (c : Char) : escapedSet.contains c = decide (c ≠ '\n') := by
  have hranges : escapedSet.ranges = [(0, 9), (11, 55295), (57344, 1114111)] := by decide
  have hnewline : c = '\n' ↔ c.toNat = 10 := Char.toNat_inj.symm
  have hvalid : c.toNat < 55296 ∨ 57343 < c.toNat ∧ c.toNat < 1114112 := c.valid
  rw [Bool.eq_iff_iff]
  simp only [CharSet.contains, CharSet.holds, hranges, List.any_cons, List.any_nil, Bool.or_false,
    Bool.or_eq_true, Bool.and_eq_true, Nat.ble_eq, decide_eq_true_iff, ne_eq, hnewline]
  omega

def quotedProgram : Program where
  states := #[.take (.singleton '"') 1, .openGroup 1 2, .fork 3 9, .fork 4 6, .take plainSet 5,
    .jump 8, .take (.singleton '\\') 7, .take escapedSet 8, .jump 2, .closeGroup 1 10,
    .take (.singleton '"') 11, .accept]

theorem program_quoted : quoted.program = quotedProgram := by decide +kernel

/-- How far a quoted text has got, and where the text between its quotes began. -/
inductive QuotedMode where
  | start
  | opened
  | behindPlain (first : Nat)
  | behindBackslash (first : Nat)
  | behindEscaped (first : Nat)
  | closed (first last : Nat)

namespace QuotedMode

def entry : QuotedMode → Thread
  | start => bare 0
  | opened => bare 1
  | behindPlain first => ⟨5, [first], []⟩
  | behindBackslash first => ⟨7, [first], []⟩
  | behindEscaped first => ⟨8, [first], []⟩
  | closed first last => ⟨11, [], [(1, first, last)]⟩

/-- What a character does between the quotes. -/
def go (first offset : Nat) (c : Char) : QuotedMode :=
  if c = '"' then closed first offset
  else if c = '\\' then behindBackslash first
  else behindPlain first

def next : QuotedMode → Nat → Char → Option QuotedMode
  | start, _, c => if c = '"' then some opened else none
  | opened, offset, c => some (go offset offset c)
  | behindPlain first, offset, c | behindEscaped first, offset, c => some (go first offset c)
  | behindBackslash first, _, c => if c = '\n' then none else some (behindEscaped first)
  | closed _ _, _, _ => none

end QuotedMode

/-- The threads between the quotes. The last one has left the group. -/
def between (first offset : Nat) : List Thread :=
  [⟨4, [first], []⟩, ⟨6, [first], []⟩, ⟨10, [], [(1, first, offset)]⟩]

def waiting (offset : Nat) : QuotedMode → List Thread
  | .start => [bare 0]
  | .opened => between offset offset
  | .behindPlain first | .behindEscaped first => between first offset
  | .behindBackslash first => [⟨7, [first], []⟩]
  | .closed first last => [⟨11, [], [(1, first, last)]⟩]

theorem closure_entry (m : QuotedMode) (holds : Look → Bool) (offset : Nat) :
    quotedProgram.closure holds offset [m.entry] = waiting offset m := by
  cases m <;>
    simp [QuotedMode.entry, waiting, between, quotedProgram, Program.closure, Program.size,
      Program.follow, Program.successors, Program.state?, Program.waits, StateSet.contains_empty,
      StateSet.contains_insert, Thread.goTo, Thread.openAt, Thread.closeAt, bare]

theorem step_take {i j : Nat} {u : CharSet} (hstate : quotedProgram.state? i = some (.take u j))
    (opened : List Nat) (closed : List (Nat × Nat × Nat)) (c : Char) :
    quotedProgram.step? c ⟨i, opened, closed⟩ =
      if u.contains c then some ⟨j, opened, closed⟩ else none := by
  simp only [Program.step?, hstate, Thread.goTo]

/-- A character lets one of the threads between the quotes go on. -/
theorem step_between (first offset : Nat) (c : Char) :
    (between first offset).filterMap (quotedProgram.step? c) =
      [(QuotedMode.go first offset c).entry] := by
  simp only [between, List.filterMap_cons, List.filterMap_nil,
    step_take (i := 4) (j := 5) (u := plainSet) rfl,
    step_take (i := 6) (j := 7) (u := .singleton '\\') rfl,
    step_take (i := 10) (j := 11) (u := .singleton '"') rfl,
    plainSet_contains, CharSet.contains_singleton, decide_eq_true_iff]
  by_cases hc : c = '"'
  · subst hc
    rfl
  · by_cases hb : c = '\\'
    · subst hb
      rfl
    · simp [hc, hb, QuotedMode.go, QuotedMode.entry]

/-- Before a quoted text is closed no thread accepts. -/
theorem takeWhile_waiting (m : QuotedMode) (offset : Nat) :
    (waiting offset m).takeWhile (fun t => !quotedProgram.accepts t) =
      match m with
      | .closed _ _ => []
      | m => waiting offset m := by
  cases m <;> simp [waiting, between, Program.accepts, Program.state?, quotedProgram, bare]

def quotedWalk : Walk quotedProgram QuotedMode where
  entry := QuotedMode.entry
  closed?
    | .closed first last => some [(1, first, last)]
    | _ => none
  next := QuotedMode.next
  better_eq m holds offset best := by
    rw [closure_entry]
    cases m <;> simp [Program.better, waiting, between, Program.accepts, Program.state?,
      quotedProgram, bare]
  advance_eq m holds offset c := by
    rw [closure_entry, Program.advance, takeWhile_waiting]
    cases m with
    | start =>
      simp only [waiting, bare, List.filterMap_cons, List.filterMap_nil,
        step_take (i := 0) (j := 1) (u := .singleton '"') rfl, CharSet.contains_singleton,
        decide_eq_true_iff, QuotedMode.next]
      by_cases hc : c = '"' <;> simp [hc, QuotedMode.entry, bare]
    | opened | behindPlain first | behindEscaped first => exact step_between _ _ c
    | behindBackslash first =>
      simp only [waiting, List.filterMap_cons, List.filterMap_nil,
        step_take (i := 7) (j := 8) (u := escapedSet) rfl, escapedSet_contains,
        decide_eq_true_iff, QuotedMode.next]
      by_cases hc : c = '\n' <;> simp [hc, QuotedMode.entry]
    | closed first last => rfl

theorem found_closed (first last offset : Nat) (cs : List Char) :
    quotedWalk.found (.closed first last) offset cs = some ⟨offset, [(1, first, last)]⟩ := by
  cases cs <;> rfl

theorem found_behindEscaped (first offset : Nat) (cs : List Char) :
    quotedWalk.found (.behindEscaped first) offset cs =
      quotedWalk.found (.behindPlain first) offset cs := by
  cases cs <;> rfl

def QuotedMode.inside (escaped : Bool) (first : Nat) : QuotedMode :=
  if escaped then .behindBackslash first else .behindPlain first

theorem QuotedMode.go_eq (first offset : Nat) (c : Char) :
    go first offset c =
      if c = '"' then .closed first offset else .inside (decide (c = '\\')) first := by
  simp only [go, inside, decide_eq_true_iff]

/-- What is found between the quotes, where the match ends behind the closing one. -/
theorem found_inside (escaped : Bool) (first offset : Nat) (cs : List Char) :
    quotedWalk.found (.inside escaped first) offset cs = (quotedBody escaped cs).map fun x =>
      ⟨offset + Text.width x.1 + 1, [(1, first, offset + Text.width x.1)]⟩ := by
  induction cs generalizing escaped offset with
  | nil => cases escaped <;> rfl
  | cons c cs ih =>
    have hmore : ∀ escaped', (quotedWalk.found (.inside escaped' first) (offset + c.utf8Size) cs) =
        ((quotedBody escaped' cs).map fun x => (c :: x.1, x.2)).map fun x =>
          ⟨offset + Text.width x.1 + 1, [(1, first, offset + Text.width x.1)]⟩ := by
      intro escaped'
      simp only [ih, Option.map_map, Function.comp_def, Text.width, Nat.add_assoc]
    cases escaped with
    | true =>
      have hfound : quotedWalk.found (.inside true first) offset (c :: cs) =
          (if c = '\n' then none else some (QuotedMode.behindEscaped first)).bind fun k =>
            quotedWalk.found k (offset + c.utf8Size) cs := Option.or_none
      rw [hfound, quotedBody, if_pos rfl]
      by_cases hc : c = '\n'
      · rw [if_pos hc, if_pos hc]
        rfl
      · rw [if_neg hc, if_neg hc, Option.bind_some, found_behindEscaped]
        exact hmore false
    | false =>
      have hfound : quotedWalk.found (.inside false first) offset (c :: cs) =
          quotedWalk.found (.go first offset c) (offset + c.utf8Size) cs := Option.or_none
      rw [hfound, quotedBody, if_neg Bool.false_ne_true, QuotedMode.go_eq]
      by_cases hc : c = '"'
      · rw [if_pos hc, if_pos hc, found_closed, hc]
        rfl
      · rw [if_neg hc, if_neg hc]
        exact hmore _

theorem search_quoted (before : Option Char) (offset : Nat) (rest : List Char) :
    quoted.program.search before offset rest = (readQuoted rest).map fun x =>
      ⟨offset + 1 + Text.width x.1 + 1, [(1, offset + 1, offset + 1 + Text.width x.1)]⟩ := by
  rw [program_quoted, quotedWalk.search_eq (m := .start) rfl]
  cases rest with
  | nil => rfl
  | cons c cs =>
    have hfound : quotedWalk.found .start offset (c :: cs) =
        (if c = '"' then some QuotedMode.opened else none).bind fun k =>
          quotedWalk.found k (offset + c.utf8Size) cs := Option.or_none
    rw [hfound, readQuoted]
    by_cases hc : c = '"'
    · have hopened : quotedWalk.found .opened (offset + 1) cs =
          quotedWalk.found (.inside false (offset + 1)) (offset + 1) cs := by
        cases cs <;> rfl
      rw [if_pos hc, if_pos hc, Option.bind_some, hc]
      exact hopened.trans (found_inside false (offset + 1) (offset + 1) cs)
    · rw [if_neg hc, if_neg hc]
      rfl

/-! ## What the pattern takes -/

section

variable {s : Scanner} {p : Position} {body rest : List Char}

theorem acceptPattern_quoted_none (hs : Scanner.Tracks s p) (h : readQuoted p.rest = none) :
    p.acceptPattern quoted = (none, p) :=
  Position.acceptPattern_of_none hs fun before => by rw [search_quoted, h, Option.map_none]

/-- A quoted text is taken with its quotes, and group 1 is what is between them. -/
theorem acceptPattern_quoted_some (hs : Scanner.Tracks s p)
    (h : readQuoted p.rest = some (body, rest)) :
    ∃ m, m.get? 1 = some body ∧ p.acceptPattern quoted = (some m, p.pass (body.length + 2)) ∧
      (p.pass (body.length + 2)).rest = rest := by
  have happend : '"' :: (body ++ '"' :: rest) = p.rest := readQuoted_append h
  have hwhole : p.rest = '"' :: (body ++ ['"']) ++ rest := by
    rw [← happend]
    simp
  have hlen : ('"' :: (body ++ ['"'])).length = body.length + 2 := by simp
  have htake : p.rest.take (body.length + 2) = '"' :: (body ++ ['"']) := by
    rw [hwhole]
    exact List.take_left' hlen
  have hdrop : p.rest.drop (body.length + 2) = rest := by
    rw [hwhole]
    exact List.drop_left' hlen
  have hwidth : Text.width ('"' :: (body ++ ['"'])) = 1 + Text.width body + 1 := by
    rw [Text.width, Text.width_append]
    rfl
  have hsearch : ∀ before, quoted.program.search before p.offset p.rest =
      some ⟨p.offset + Text.width (p.rest.take (body.length + 2)),
        [(1, p.offset + 1, p.offset + 1 + Text.width body)]⟩ := by
    intro before
    rw [search_quoted, h, htake, hwidth]
    simp only [Option.map_some, Nat.add_assoc]
  have hlength : body.length + 2 ≤ p.rest.length := by
    rw [← happend]
    simp
  obtain ⟨m, hm, -, hout⟩ := Position.acceptPattern_of_some hs hlength hsearch
  refine ⟨m, ?_, hout, (p.rest_pass _).trans hdrop⟩
  have hgroup : m.get? 1 =
      some (Text.slice p.text (p.offset + 1) (p.offset + 1 + Text.width body)) := by
    rw [hm]
    rfl
  have hfirst : p.offset + 1 = Text.width (p.text.take (p.index + 1)) := by
    rw [Text.width_take_add]
    show p.offset + 1 = p.offset + Text.width (p.rest.take 1)
    rw [← happend]
    rfl
  have hbody : (p.text.drop (p.index + 1)).take body.length = body := by
    rw [← List.drop_drop, show p.text.drop p.index = p.rest from rfl, ← happend]
    simp
  have hlast : p.offset + 1 + Text.width body =
      Text.width (p.text.take (p.index + 1 + body.length)) := by
    rw [Text.width_take_add, ← hfirst, hbody]
  rw [hgroup, hlast, hfirst, Text.slice_width_take, hbody]

end

end Rewind.Script
