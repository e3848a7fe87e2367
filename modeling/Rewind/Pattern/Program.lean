import Rewind.Pattern.Regex

/-! Programs: expressions laid out as numbered states. The states of an expression stand one after
another from a base on, and a run that gets through them goes on with the state after the last. -/
namespace Rewind

inductive State where
  | accept
  /-- Takes one character of a set. -/
  | take (s : CharSet) (next : Nat)
  | test (l : Look) (next : Nat)
  /-- Goes to either of two states, the first preferred. -/
  | fork (first second : Nat)
  | jump (next : Nat)
  | openGroup (index : Nat) (next : Nat)
  | closeGroup (index : Nat) (next : Nat)
  deriving DecidableEq, Repr

structure Program where
  states : Array State
  deriving DecidableEq, Repr

namespace Program

/-- A fork into a repetition or past it; a greedy one prefers to go in. -/
def forkTo (greedy : Bool) (inside past : Nat) : State :=
  if greedy then .fork inside past else .fork past inside

def copies (sub : Nat → List State) : Nat → Nat → List State
  | 0, _ => []
  | n + 1, base => sub base ++ copies sub n (base + (sub base).length)

/-- Nested optional copies, `n` of them, which all leave for the state after the last. -/
def optionals (greedy : Bool) (sub : Nat → List State) : Nat → Nat → List State
  | 0, _ => []
  | n + 1, base =>
    let inner := sub (base + 1)
    let past := base + (n + 1) * (inner.length + 1)
    forkTo greedy (base + 1) past :: inner ++ optionals greedy sub n (base + 1 + inner.length)

def oneOrMore (greedy : Bool) (sub : Nat → List State) (base : Nat) : List State :=
  let inner := sub base
  inner ++ [forkTo greedy base (base + inner.length + 1)]

/-- Any number of copies. A copy that may be empty would loop in place, so then the repetition is
an optional one-or-more. -/
def zeroOrMore (greedy mayBeEmpty : Bool) (sub : Nat → List State) (base : Nat) : List State :=
  if mayBeEmpty then optionals greedy (oneOrMore greedy sub) 1 base
  else
    let inner := sub (base + 1)
    forkTo greedy (base + 1) (base + inner.length + 2) :: inner ++ [.jump base]

def spell : List Char → Nat → List State
  | [], _ => []
  | c :: cs, base => .take (.singleton c) (base + 1) :: spell cs (base + 1)

def layOut : Regex → Nat → List State
  | .empty, _ => []
  | .literal cs, base => spell cs base
  | .set _ s, base => [.take s (base + 1)]
  | .look l, base => [.test l (base + 1)]
  | .group index _ sub, base =>
    let inner := layOut sub (base + 1)
    .openGroup index (base + 1) :: inner ++ [.closeGroup index (base + inner.length + 2)]
  | .seq a b, base =>
    let first := layOut a base
    first ++ layOut b (base + first.length)
  | .alt a b, base =>
    let first := layOut a (base + 1)
    let second := layOut b (base + first.length + 2)
    .fork (base + 1) (base + first.length + 2) :: first ++
      .jump (base + first.length + second.length + 2) :: second
  | .rep min (some max) greedy sub, base =>
    let required := copies (layOut sub) min base
    required ++ optionals greedy (layOut sub) (max - min) (base + required.length)
  | .rep 0 none greedy sub, base =>
    zeroOrMore greedy (sub.minWidth.getD 0 = 0) (layOut sub) base
  | .rep (min + 1) none greedy sub, base =>
    let required := copies (layOut sub) min base
    required ++ oneOrMore greedy (layOut sub) (base + required.length)

/-- The program of an expression: its states and an accepting one. -/
def ofRegex (r : Regex) : Program := ⟨(layOut r 0 ++ [State.accept]).toArray⟩

def size (p : Program) : Nat := p.states.size

end Program

end Rewind
