/-! Layouts: byte automata, of which only the size is kept. States are numbered in the order in
which they are added, and a layout ends where its size goes beyond a limit. -/
namespace Rewind

inductive Direction where
  | forwards
  | backwards
  deriving DecidableEq, Repr

/-- Bytes of a state, of a transition in a state's list, and of one way out of a fork. -/
def stateCost : Nat := 32
def transitionCost : Nat := 8
def exitCost : Nat := 4

def footprintLimit : Nat := 10485760

/-- The states so far and the bytes of their lists. -/
structure Tally where
  states : Nat
  lists : Nat
  deriving DecidableEq, Repr

def Tally.bytes (t : Tally) : Nat := stateCost * t.states + t.lists

abbrev Layout (α : Type) := StateT Tally Option α

namespace Layout

/-- Adds states and bytes of lists, within the limit. -/
def grow (states lists : Nat) : Layout Unit := fun t =>
  let u : Tally := ⟨t.states + states, t.lists + lists⟩
  if u.bytes ≤ footprintLimit then some ((), u) else none

/-- Adds a state with a list of so many bytes and gives its number. -/
def state (lists : Nat) : Layout Nat := do
  let number := (← get).states
  grow 1 lists
  return number

/-- A state with a single transition or none, which needs no list. -/
def plain : Layout Unit := grow 1 0

def fork : Layout Unit := grow 1 (2 * exitCost)

def exit : Layout Unit := grow 0 exitCost

def copies (once : Layout Unit) : Nat → Layout Unit
  | 0 => return ()
  | n + 1 => do
    once
    copies once n

end Layout

end Rewind
