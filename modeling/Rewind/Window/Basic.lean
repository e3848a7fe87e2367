import Rewind.Checkpoint
import Rewind.Event
import Rewind.Ring.Walk

/-! Windows: growing stretches of a stream of units. A unit keeps the index at which it arrived. The
units from `oldest` on are held and those from `cursor` on are still to be read; reading moves the
cursor only, so a reader can go back as far as `oldest`. -/
namespace Rewind

structure Window (α : Type) where
  ring : Ring α
  oldest : Nat
  cursor : Nat
  journal : List Event
  oldest_le : oldest ≤ cursor
  cursor_le : cursor ≤ oldest + ring.size

namespace Window

variable {α : Type}

/-- The bound of the first ring where none is given: 64 slots. -/
def firstBound : Nat := 6

def ofRing (r : Ring α) : Window α where
  ring := r
  oldest := 0
  cursor := 0
  journal := []
  oldest_le := Nat.le_refl 0
  cursor_le := Nat.zero_le _

def empty : Window α := ofRing (.empty firstBound)

/-- An empty window whose first ring has `2 ^ bound` slots. -/
def create (bound : Nat) : Except BoundError (Window α) := (Ring.create bound).map ofRing

def held (w : Window α) : Nat := w.ring.size

/-- The index that the next unit to arrive will have. -/
def arrived (w : Window α) : Nat := w.oldest + w.ring.size

/-- Number of units from the cursor on. -/
def ahead (w : Window α) : Nat := w.arrived - w.cursor

def isEmpty (w : Window α) : Bool := w.ahead = 0

def note (w : Window α) (e : Event) : Window α := { w with journal := w.journal ++ [e] }

def quiet (w : Window α) : Window α := { w with journal := [] }

/-- Adds a unit at the end. A full ring is first replaced by one of twice the slots. -/
def push (w : Window α) (x : α) : Window α :=
  if h : w.ring.size < Ring.slotCount w.ring.bound then
    { w with
      ring := w.ring.put x h
      cursor_le := Nat.le_trans w.cursor_le (Nat.le_succ _) }
  else
    { w with
      ring := w.ring.double.put x w.ring.size_lt_double
      journal := w.journal ++ [.grew w.ring.double.capacity w.ring.size]
      cursor_le := Nat.le_trans w.cursor_le (Nat.le_succ _) }

def pushAll (w : Window α) (xs : List α) : Window α := xs.foldl push w

/-- The unit of index `i`, if it is held. -/
def get? (w : Window α) (i : Nat) : Option α :=
  if w.oldest ≤ i then w.ring.get? (i - w.oldest) else none

def peek? (w : Window α) (n : Nat) : Option α :=
  if n < w.ahead then w.ring.get? (w.cursor - w.oldest + n) else none

/-- Moves the cursor over `n` units, or to the end. -/
def advance (w : Window α) (n : Nat) : Window α :=
  { w with
    cursor := w.cursor + min n w.ahead
    oldest_le := Nat.le_trans w.oldest_le (Nat.le_add_right ..)
    cursor_le := by
      have := w.cursor_le
      simp only [ahead, arrived]
      omega }

def next (w : Window α) : Option α × Window α := (w.peek? 0, w.advance 1)

def walk (w : Window α) : Ring.Walk α := w.ring.walkFrom (w.cursor - w.oldest)

/-- The units from the cursor on. -/
def toList (w : Window α) : List α := w.ring.toList.drop (w.cursor - w.oldest)

/-- Whether the cursor can be set to an index: to that of a held unit or to the end. -/
def admits (w : Window α) (index : Nat) : Except CheckpointError Unit :=
  if w.oldest ≤ index ∧ index ≤ w.arrived then .ok ()
  else .error (.outOfRange index w.oldest w.arrived)

/-- Sets the cursor to an index that it admits. -/
def rewind (w : Window α) (index : Nat) : Except CheckpointError (Window α) :=
  if h : w.oldest ≤ index ∧ index ≤ w.arrived then
    .ok { w with
      cursor := index
      journal := w.journal ++ [.restored w.cursor index]
      oldest_le := h.1
      cursor_le := h.2 }
  else .error (.outOfRange index w.oldest w.arrived)

def behind (w : Window α) : Nat := w.cursor - w.oldest

/-- Lets go of the units before the cursor. -/
def release (w : Window α) : Window α :=
  { w with
    ring := w.ring.drop w.behind
    oldest := w.cursor
    journal := w.journal ++ if w.behind = 0 then [] else [.released w.behind]
    oldest_le := Nat.le_refl _
    cursor_le := Nat.le_add_right .. }

def describe (render : α → String) (w : Window α) : String :=
  "TokenBuffer \x7b ring: " ++ w.ring.describe render ++ ", base: " ++ toString w.oldest ++
    ", start: " ++ toString w.cursor ++ " \x7d"

end Window

end Rewind
