import Rewind.Pattern.Program
import Rewind.Pattern.Program.StateSet
import Rewind.Unicode.Word

/-! Runs of a program over a text. Threads are kept in order of preference, and of two threads that
reach one state at one position the less preferred is dropped, so the work per character is bounded
by the size of the program. -/
namespace Rewind

namespace Look

def isWord (unicode : Bool) (c : Char) : Bool :=
  if unicode then Unicode.word.contains c else c.isAlphanum || c = '_'

/-- Whether the character on one side of a position is part of a word. -/
def onWord (unicode : Bool) (c : Option Char) : Bool := c.any (isWord unicode)

/-- Whether a condition holds between two characters, which are absent at the ends of the text. -/
def holds (before after : Option Char) : Look → Bool
  | textStart => before.isNone
  | textEnd => after.isNone
  | lineStart => before.isNone || before = some '\n'
  | lineEnd => after.isNone || after = some '\n'
  | crlfLineStart =>
    before.isNone || before = some '\n' || (before = some '\r' && after ≠ some '\n')
  | crlfLineEnd =>
    after.isNone || after = some '\r' || (after = some '\n' && before ≠ some '\r')
  | boundary u => onWord u before != onWord u after
  | notBoundary u => onWord u before == onWord u after
  | wordStart u => !onWord u before && onWord u after
  | wordEnd u => onWord u before && !onWord u after
  | wordStartHalf u => !onWord u before
  | wordEndHalf u => !onWord u after

end Look

/-- A run that has got to a state. `opened` holds where the groups that it is in began, the
innermost first; `closed` holds the groups that it has left, the last one first. -/
structure Thread where
  state : Nat
  opened : List Nat
  closed : List (Nat × Nat × Nat)
  deriving DecidableEq, Repr

namespace Thread

def goTo (t : Thread) (i : Nat) : Thread := { t with state := i }

def openAt (t : Thread) (offset : Nat) : Thread := { t with opened := offset :: t.opened }

def closeAt (t : Thread) (index offset : Nat) : Thread :=
  match t.opened with
  | start :: outer => ⟨t.state, outer, (index, start, offset) :: t.closed⟩
  | [] => t

end Thread

namespace Program

def state? (p : Program) (i : Nat) : Option State := p.states[i]?

def accepts (p : Program) (t : Thread) : Bool := p.state? t.state = some .accept

/-- The states that a thread can go on to without taking a character, preferred ones first. -/
def successors (p : Program) (holds : Look → Bool) (offset : Nat) (t : Thread) : List Thread :=
  match p.state? t.state with
  | some (.test l next) => if holds l then [t.goTo next] else []
  | some (.fork first second) => [t.goTo first, t.goTo second]
  | some (.jump next) => [t.goTo next]
  | some (.openGroup _ next) => [(t.openAt offset).goTo next]
  | some (.closeGroup index next) => [(t.closeAt index offset).goTo next]
  | _ => []

def waits (p : Program) (t : Thread) : Bool :=
  match p.state? t.state with
  | some .accept => true
  | some (.take ..) => true
  | _ => false

/-- Follows threads as far as they can go without taking a character. Each state is entered once, by
the thread that prefers it most. -/
def follow (p : Program) (holds : Look → Bool) (offset : Nat) :
    Nat → List Thread → StateSet → List Thread → List Thread
  | 0, _, _, done => done.reverse
  | _ + 1, [], _, done => done.reverse
  | n + 1, t :: todo, seen, done =>
    if seen.contains t.state then p.follow holds offset n todo seen done
    else
      p.follow holds offset n (p.successors holds offset t ++ todo) (seen.insert t.state)
        (if p.waits t then t :: done else done)

/-- The threads that wait at a position, in order of preference. -/
def closure (p : Program) (holds : Look → Bool) (offset : Nat) (ts : List Thread) : List Thread :=
  p.follow holds offset (ts.length + 2 * p.size + 1) ts .empty []

/-- Takes a character, if the thread waits for one like it. -/
def step? (p : Program) (c : Char) (t : Thread) : Option Thread :=
  match p.state? t.state with
  | some (.take s next) => if s.contains c then some (t.goTo next) else none
  | _ => none

/-- Takes a character with all threads that are preferred to an accepting one. -/
def advance (p : Program) (c : Char) (ts : List Thread) : List Thread :=
  (ts.takeWhile fun t => !p.accepts t).filterMap (p.step? c)

/-- Where a run ended and the groups that it closed. -/
structure Found where
  stop : Nat
  closed : List (Nat × Nat × Nat)
  deriving DecidableEq, Repr

/-- The match that the threads at a position hold, else the one found before. -/
def better (p : Program) (offset : Nat) (ts : List Thread) (best : Option Found) : Option Found :=
  match ts.find? p.accepts with
  | some t => some ⟨offset, t.closed⟩
  | none => best

/-- Runs threads over the rest of a text and finds the preferred match. -/
def run (p : Program) (before : Option Char) (offset : Nat) :
    List Char → List Thread → Option Found → Option Found
  | [], ts, best => p.better offset (p.closure (Look.holds before none) offset ts) best
  | c :: cs, ts, best =>
    let ts := p.closure (Look.holds before (some c)) offset ts
    let best := p.better offset ts best
    let next := p.advance c ts
    if next.isEmpty then best else p.run (some c) (offset + c.utf8Size) cs next best

def start : Thread := ⟨0, [], []⟩

/-- Finds the preferred match that begins between the character `before` and the text `rest`, at a
given offset. -/
def search (p : Program) (before : Option Char) (offset : Nat) (rest : List Char) : Option Found :=
  p.run before offset rest [start] none

end Program

end Rewind
