import Rewind.Proofs.Scanner.Position

/-! Courses: runs step by step. What can be asked of a scanner is data here, with any conditions,
patterns and checkpoints, and an attempt is entered by one move and left by another, so a list of
moves is a run that may be inside of attempts to any depth. Scanners and positions run alike. -/
namespace Rewind

inductive Action where
  | next
  | peek
  | lookAhead (n : Nat)
  | advance (n : Nat)
  | accept (c : Char)
  | takeWhile (f : Char → Bool)
  | takeUntil (f : Char → Bool)
  | startsWith (cs : List Char)
  | acceptText (cs : List Char)
  | acceptBefore (cs : List Char) (f : Char → Bool)
  | acceptKeyword (cs : List Char)
  | acceptPattern (r : Pattern)
  | takeSpace
  | takeWord
  | here
  | rewind (c : Checkpoint)
  | release

inductive Answer where
  | unit (c : Option Char)
  | count (n : Nat)
  | countIf (n : Option Nat)
  | text (cs : List Char)
  | truth (b : Bool)
  | found (m : Option Match)
  | place (c : Checkpoint)
  | verdict (r : Except CheckpointError Unit)
  | attempt (a : Attempt Unit)
  | nothing

/-- What can be seen of the state after a move. -/
structure View where
  offset : Nat
  rest : List Char
  atEnd : Bool

/-- Something of which actions can be asked and which can go back to where a rule began. -/
class Machine (σ : Type) where
  act : Action → σ → Answer × σ
  here : σ → Checkpoint
  settle : Checkpoint → Option Unit → σ → Attempt Unit × σ
  view : σ → View

namespace Scanner

def act : Action → Scanner → Answer × Scanner
  | .next, s => s.next.map .unit id
  | .peek, s => s.peek.map .unit id
  | .lookAhead n, s => (s.lookAhead n).map .unit id
  | .advance n, s => (s.advance n).map .count id
  | .accept c, s => (s.accept c).map .unit id
  | .takeWhile f, s => (s.takeWhile f).map .text id
  | .takeUntil f, s => (s.takeUntil f).map .text id
  | .startsWith cs, s => (s.startsWith cs).map .countIf id
  | .acceptText cs, s => (s.acceptText cs).map .truth id
  | .acceptBefore cs f, s => (s.acceptBefore cs f).map .truth id
  | .acceptKeyword cs, s => (s.acceptKeyword cs).map .truth id
  | .acceptPattern r, s => (s.acceptPattern r).map .found id
  | .takeSpace, s => s.takeSpace.map .text id
  | .takeWord, s => s.takeWord.map .text id
  | .here, s => (.place s.here, s)
  | .rewind c, s => (s.rewind c).map .verdict id
  | .release, s => s.release.map .count id

instance : Machine Scanner where
  act := act
  here := here
  settle := settle
  view s := ⟨s.offset, s.rest, s.atEnd⟩

end Scanner

namespace Position

def act : Action → Position → Answer × Position
  | .next, p => p.next.map .unit id
  | .peek, p => (p.lookAhead 0).map .unit id
  | .lookAhead n, p => (p.lookAhead n).map .unit id
  | .advance n, p => (p.advance n).map .count id
  | .accept c, p => (p.accept c).map .unit id
  | .takeWhile f, p => (p.takeWhile f).map .text id
  | .takeUntil f, p => (p.takeWhile fun c => !f c).map .text id
  | .startsWith cs, p => (p.startsWith cs).map .countIf id
  | .acceptText cs, p => (p.acceptText cs).map .truth id
  | .acceptBefore cs f, p => (p.acceptBefore cs f).map .truth id
  | .acceptKeyword cs, p => (p.acceptKeyword cs).map .truth id
  | .acceptPattern r, p => (p.acceptPattern r).map .found id
  | .takeSpace, p => (p.takeWhile p.options.space.matchesOne).map .text id
  | .takeWord, p => (p.takeWhile p.options.word.matchesOne).map .text id
  | .here, p => (.place p.here, p)
  | .rewind c, p => (p.rewind c).map .verdict id
  | .release, p => p.release.map .count id

instance : Machine Position where
  act := act
  here := here
  settle := settle
  view p := ⟨p.offset, p.rest, p.atEnd⟩

end Position

inductive Move where
  | act (a : Action)
  /-- Begins an attempt. -/
  | enter
  /-- Ends the innermost attempt, whose rule is accepted or fails. One that is broken off in the middle
  leaves the same state behind as one that is accepted. -/
  | leave (accepted : Bool)

/-- A machine and where the attempts began that it is inside of, the innermost first. -/
structure Course (σ : Type) where
  state : σ
  starts : List Checkpoint

namespace Course

variable {σ : Type} [Machine σ]

def begin (s : σ) : Course σ := ⟨s, []⟩

def step : Move → Course σ → Answer × Course σ
  | .act a, c => ((Machine.act a c.state).1, { c with state := (Machine.act a c.state).2 })
  | .enter, c => (.nothing, { c with starts := Machine.here c.state :: c.starts })
  | .leave _, ⟨s, []⟩ => (.nothing, ⟨s, []⟩)
  | .leave accepted, ⟨s, start :: starts⟩ =>
    let r := Machine.settle start (if accepted then some () else none) s
    (.attempt r.1, ⟨r.2, starts⟩)

def after : List Move → Course σ → Course σ
  | [], c => c
  | m :: ms, c => after ms (step m c).2

/-- The answers to moves, each with what can be seen after it. -/
def transcript : List Move → Course σ → List (Answer × View)
  | [], _ => []
  | m :: ms, c => ((step m c).1, Machine.view (step m c).2.state) :: transcript ms (step m c).2

/-- Where moves get a scanner from the start of a text. -/
def reached (text : List Char) (options : Options) (ms : List Move) : Scanner :=
  (after ms (begin (.ofText text options))).state

theorem after_append (ms ns : List Move) (c : Course σ) :
    after (ms ++ ns) c = after ns (after ms c) := by
  induction ms generalizing c with
  | nil => rfl
  | cons m ms ih => exact ih _

/-! ## Attempts -/

/-- Whether moves leave each attempt that they enter, and `depth` more, and no others. -/
def isBalanced : Nat → List Move → Bool
  | depth, [] => depth = 0
  | depth, .act _ :: ms => isBalanced depth ms
  | depth, .enter :: ms => isBalanced (depth + 1) ms
  | 0, .leave _ :: _ => false
  | depth + 1, .leave _ :: ms => isBalanced depth ms

/-- Balanced moves never come to the attempts around them. -/
theorem after_of_isBalanced {ms : List Move} (inner outer : List Checkpoint) (s : σ)
    (h : isBalanced inner.length ms = true) :
    after ms ⟨s, inner ++ outer⟩ = ⟨(after ms ⟨s, inner⟩).state, outer⟩ := by
  induction ms generalizing s inner with
  | nil =>
    have hnil : inner = [] := List.eq_nil_of_length_eq_zero (of_decide_eq_true h)
    rw [hnil]
    rfl
  | cons m ms ih =>
    cases m with
    | act a => exact ih inner _ h
    | enter => exact ih (Machine.here s :: inner) s h
    | leave accepted =>
      cases inner with
      | nil => cases h
      | cons start inner => exact ih inner _ h

/-- A rule that makes moves and then is accepted or fails. -/
def rule (ms : List Move) (accepted : Bool) : Rule Unit := fun s =>
  (if accepted then some () else none, (after ms (begin s)).state)

/-- To attempt a rule is to enter, to make its moves and to leave. -/
theorem attempt_rule {ms : List Move} (h : isBalanced 0 ms = true) (accepted : Bool) (s : Scanner)
    (starts : List Checkpoint) :
    step (.leave accepted) (after (.enter :: ms) ⟨s, starts⟩) =
      (.attempt (s.attempt (rule ms accepted)).1, ⟨(s.attempt (rule ms accepted)).2, starts⟩) := by
  have hrule : after ms ⟨s, s.here :: starts⟩ = ⟨(after ms (begin s)).state, s.here :: starts⟩ :=
    after_of_isBalanced [] (s.here :: starts) s h
  show step (.leave accepted) (after ms ⟨s, s.here :: starts⟩) = _
  rw [hrule]
  rfl

end Course

end Rewind
