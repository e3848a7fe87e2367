import Rewind.Criterion
import Rewind.Options
import Rewind.Window.Basic

/-! Scanners: readers of a text that can go back. A unit is pulled from the text once, when it is
first asked for, and stays in the window until it is released. The offset is that of the cursor, in
bytes, so that patterns can be matched in the text itself. -/
namespace Rewind

structure Scanner where
  text : List Char
  /-- What has not been pulled yet. -/
  unread : List Char
  window : Window Char
  offset : Nat
  options : Options

/-- Makes an outcome and moves a scanner. -/
abbrev Scan (α : Type) := StateM Scanner α

namespace Scan

variable {α β : Type}

/-- A scan goes on from where the one before it leads. -/
theorem bind_apply (m : Scan α) (k : α → Scan β) (s : Scanner) : (m >>= k) s = k (m s).1 (m s).2 :=
  rfl

theorem get_bind_apply (k : Scanner → Scan α) (s : Scanner) : (get >>= k) s = k s s := rfl

end Scan

namespace Scanner

def ofText (text : List Char) (options : Options) : Scanner where
  text := text
  unread := text
  window := .empty
  offset := 0
  options := options

def rest (s : Scanner) : List Char := Text.dropBytes s.offset s.text

def atEnd (s : Scanner) : Bool := s.offset = Text.width s.text

def consumed (s : Scanner) : Nat := s.window.cursor

def held (s : Scanner) : Nat := s.window.held

def remaining (s : Scanner) : Nat := s.window.ahead + s.unread.length

def inWord (s : Scanner) (c : Char) : Bool := s.options.word.matchesOne c

def inSpace (s : Scanner) (c : Char) : Bool := s.options.space.matchesOne c

/-- Pulls `n` units, or all that are left. -/
def pull (s : Scanner) : Nat → Scanner
  | 0 => s
  | n + 1 =>
    match s.unread with
    | [] => s
    | c :: cs => pull { s with unread := cs, window := s.window.push c } n

/-- Pulls units until `n` are available, if the text has so many. -/
def demand (s : Scanner) (n : Nat) : Scanner := s.pull (n - s.window.ahead)

def next : Scan (Option Char) := fun s =>
  let s := s.demand 1
  match s.window.next with
  | (some c, w) => (some c, { s with window := w, offset := s.offset + c.utf8Size })
  | (none, _) => (none, s)

/-- The unit `n` places ahead. -/
def lookAhead (n : Nat) : Scan (Option Char) := fun s =>
  let s := s.demand (n + 1)
  (s.window.peek? n, s)

def peek : Scan (Option Char) := lookAhead 0

/-- Takes units one by one, up to `n`, and counts them. -/
def nextUpTo : Nat → Scan Nat
  | 0, s => (0, s)
  | n + 1, s =>
    match next s with
    | (some _, s) => ((nextUpTo n s).1 + 1, (nextUpTo n s).2)
    | (none, s) => (0, s)

/-- Takes up to `n` units, those in the window in one move, and counts them. -/
def advance (n : Nat) : Scan Nat := fun s =>
  let k := min n s.window.ahead
  let bytes := Text.width (s.window.toList.take k)
  let (more, s) :=
    nextUpTo (n - k) { s with window := s.window.advance k, offset := s.offset + bytes }
  (k + more, s)

def accept (c : Char) : Scan (Option Char) := do
  if (← peek) = some c then next else return none

/-- Takes units while they satisfy a condition, up to `n`. -/
def takeRun (p : Char → Bool) : Nat → Scan Unit
  | 0 => return ()
  | n + 1 => do
    match ← peek with
    | some c =>
      if p c then
        let _ ← next
        takeRun p n
    | none => return ()

/-- Takes the units that satisfy a condition, to the first that does not. -/
def takeWhile (p : Char → Bool) : Scan (List Char) := do
  let start := (← get).offset
  takeRun p ((← get).remaining + 1)
  let s ← get
  return Text.slice s.text start s.offset

def takeUntil (p : Char → Bool) : Scan (List Char) := takeWhile fun c => !p c

def takeSpace : Scan (List Char) := do takeWhile (← get).inSpace

def takeWord : Scan (List Char) := do takeWhile (← get).inWord

/-- Whether the units from `n` places ahead on spell a text. Units behind the first difference are
not looked at. -/
def spells (n : Nat) : List Char → Scan Bool
  | [] => return true
  | c :: cs => do
    if (← lookAhead n) = some c then spells (n + 1) cs else return false

/-- The number of units of a text, if they come next. -/
def startsWith (cs : List Char) : Scan (Option Nat) := do
  return if ← spells 0 cs then some cs.length else none

def acceptText (cs : List Char) : Scan Bool := do
  match ← startsWith cs with
  | some n =>
    let _ ← advance n
    return true
  | none => return false

/-- Takes a text if it comes next and then a unit that satisfies a condition. -/
def acceptBefore (cs : List Char) (p : Char → Bool) : Scan Bool := do
  match ← startsWith cs with
  | some n =>
    if (← lookAhead n).any p then
      let _ ← advance n
      return true
    else return false
  | none => return false

/-- Takes a text if it comes next and then no unit of a word. -/
def acceptKeyword (cs : List Char) : Scan Bool := do
  match ← startsWith cs with
  | some n =>
    let after ← lookAhead n
    if after.any (← get).inWord then return false
    let _ ← advance n
    return true
  | none => return false

/-- Takes units up to a byte offset, at most `n`. -/
def takeTo (stop : Nat) : Nat → Scan Unit
  | 0 => return ()
  | n + 1 => do
    if (← get).offset < stop then
      if (← next).isSome then takeTo stop n

def acceptPattern (p : Pattern) : Scan (Option Match) := do
  let s ← get
  match p.applyAt? s.text s.offset with
  | some m =>
    takeTo m.stop s.remaining
    return some m
  | none => return none

/-! ## Going back -/

def here (s : Scanner) : Checkpoint := ⟨s.window.cursor, s.offset⟩

/-- Bytes of the held units of index `i` and on, `n` units in all. -/
def widthFrom (s : Scanner) (i n : Nat) : Nat :=
  Text.width ((List.range n).filterMap fun k => s.window.get? (i + k))

/-- The byte at which the held unit of an index starts, reckoned from the cursor. -/
def startOf (s : Scanner) (index : Nat) : Nat :=
  if index ≤ s.consumed then s.offset - s.widthFrom index (s.consumed - index)
  else s.offset + s.widthFrom s.consumed (index - s.consumed)

/-- Goes to a checkpoint. One that names no held unit is refused, and so is one whose offset is
not that of the unit. -/
def rewind (c : Checkpoint) : Scan (Except CheckpointError Unit) := ExceptT.run do
  ofExcept ((← get).window.admits c.cursor)
  let expected := (← get).startOf c.cursor
  if c.offset ≠ expected then throw (.mismatch c.cursor c.offset expected)
  let w ← ofExcept ((← get).window.rewind c.cursor)
  modify fun s => { s with window := w }
  modify fun s => { s with
    window := s.window.note (.offsetRestored s.offset c.offset)
    offset := c.offset }

/-- Lets go of the units before the cursor and counts them. -/
def release : Scan Nat := fun s => (s.window.behind, { s with window := s.window.release })

/-- Whether what was consumed, what is in the window from the cursor on and what is unread cover the
text exactly. -/
def isConsistent (s : Scanner) : Bool :=
  Text.isBoundary s.offset s.text &&
    s.offset + Text.width s.window.toList + Text.width s.unread == Text.width s.text &&
    (s.rest.zip s.window.toList).all fun (c, d) => c == d

end Scanner

end Rewind
