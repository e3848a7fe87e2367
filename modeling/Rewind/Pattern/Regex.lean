import Rewind.CharSet
import Rewind.Text.Bytes

/-! Regular expressions in simplified form. `seq` and `alt` chains lean to the right and never hold
a chain of their own kind as an element; adjacent literals are one; a set of one character is a
literal. The constructing functions keep it so. -/
namespace Rewind

/-- A condition on the characters to the left and right of a position. -/
inductive Look where
  | textStart
  | textEnd
  | lineStart
  | lineEnd
  | crlfLineStart
  | crlfLineEnd
  | boundary (unicode : Bool)
  | notBoundary (unicode : Bool)
  | wordStart (unicode : Bool)
  | wordEnd (unicode : Bool)
  | wordStartHalf (unicode : Bool)
  | wordEndHalf (unicode : Bool)
  deriving DecidableEq, Repr

inductive Regex where
  | empty
  | literal (cs : List Char)
  /-- One character of a set; `bytes` marks a set that was written with Unicode off. -/
  | set (bytes : Bool) (s : CharSet)
  | look (l : Look)
  | rep (min : Nat) (max : Option Nat) (greedy : Bool) (sub : Regex)
  | group (index : Nat) (name : Option (List Char)) (sub : Regex)
  | seq (a b : Regex)
  | alt (a b : Regex)
  deriving DecidableEq, Repr

namespace Regex

def fail : Regex := .set true .empty

def parts : Regex → List Regex
  | empty => []
  | seq a b => a :: b.parts
  | r => [r]

def alternatives : Regex → List Regex
  | alt a b => a :: b.alternatives
  | r => [r]

def ofParts : List Regex → Regex
  | [] => empty
  | [r] => r
  | r :: rs => seq r (ofParts rs)

def ofAlternatives : List Regex → Regex
  | [] => fail
  | [r] => r
  | r :: rs => alt r (ofAlternatives rs)

def ofSet (bytes : Bool) (s : CharSet) : Regex :=
  if s.isEmpty then fail
  else
    match s.single? with
    | some c => literal [c]
    | none => set bytes s

def joinLiterals : List Regex → List Regex
  | [] => []
  | literal a :: rs =>
    match joinLiterals rs with
    | literal b :: t => literal (a ++ b) :: t
    | t => literal a :: t
  | r :: rs => r :: joinLiterals rs

def sequence (rs : List Regex) : Regex := ofParts (joinLiterals (rs.flatMap parts))

/-! ## Lengths -/

/-- The fewest bytes that a match takes; none where there is no match. -/
def minWidth : Regex → Option Nat
  | empty => some 0
  | literal cs => some (Text.width cs)
  | set _ s => s.ranges.head?.map fun r => (Char.ofNat r.1).utf8Size
  | look _ => some 0
  | rep min _ _ sub => sub.minWidth.map (· * min)
  | group _ _ sub => sub.minWidth
  | seq a b => do return (← a.minWidth) + (← b.minWidth)
  | alt a b => do return min (← a.minWidth) (← b.minWidth)

/-- The most bytes that a match takes; none where there is no match or no limit. -/
def maxWidth : Regex → Option Nat
  | empty => some 0
  | literal cs => some (Text.width cs)
  | set _ s => s.ranges.getLast?.map fun r => (Char.ofNat r.2).utf8Size
  | look _ => some 0
  | rep _ max _ sub => do return (← sub.maxWidth) * (← max)
  | group _ _ sub => sub.maxWidth
  | seq a b => do return (← a.maxWidth) + (← b.maxWidth)
  | alt a b => do return max (← a.maxWidth) (← b.maxWidth)

/-- Repeats an expression. One that only matches the empty text is not worth repeating. -/
def repetition (min : Nat) (max : Option Nat) (greedy : Bool) (sub : Regex) : Regex :=
  let pointless := sub.maxWidth = some 0
  let min := if pointless then Nat.min min 1 else min
  let max := if pointless then some (Nat.min (max.getD 1) 1) else max
  if min = 0 ∧ max = some 0 then empty
  else if min = 1 ∧ max = some 1 then sub
  else rep min max greedy sub

/-! ## Alternation -/

def singleChar? : Regex → Option Char
  | literal [c] => some c
  | _ => none

def set? : Regex → Option CharSet
  | set _ s => some s
  | _ => none

/-- The parts of an expression that is a concatenation of two or more. -/
def chain? : Regex → Option (List Regex)
  | seq a b => some (a :: b.parts)
  | _ => none

def commonStart (a b : List Regex) : List Regex :=
  ((a.zip b).takeWhile fun p => p.1 = p.2).map Prod.fst

/-- The parts with which all alternatives begin, if all are concatenations. -/
def sharedStart (rs : List Regex) : List Regex :=
  match rs.mapM chain? with
  | some (c :: cs) => cs.foldl commonStart c
  | _ => []

/-- One of several expressions, the first preferred. Alternatives of one character become a set, and
parts with which all alternatives begin are set in front. -/
def choiceWithin : Nat → List Regex → Regex
  | 0, rs => ofAlternatives rs
  | n + 1, rs =>
    let rs := rs.flatMap alternatives
    if rs.length ≤ 1 then ofAlternatives rs
    else if let some cs := rs.mapM singleChar? then ofSet false (.ofList cs)
    else if let some sets := rs.mapM set? then ofSet false (sets.foldl .union .empty)
    else
      let shared := sharedStart rs
      if shared.isEmpty then ofAlternatives rs
      else
        let ends := rs.map fun r => sequence (r.parts.drop shared.length)
        sequence (shared ++ [choiceWithin n ends])

def size : Regex → Nat
  | rep _ _ _ sub => sub.size + 1
  | group _ _ sub => sub.size + 1
  | seq a b => a.size + b.size + 1
  | alt a b => a.size + b.size + 1
  | _ => 1

def choice (rs : List Regex) : Regex := choiceWithin (rs.foldl (fun n r => n + r.size) 0) rs

/-- The choice between alternatives; a single one needs none. -/
def ofChoices : List Regex → Regex
  | [r] => r
  | rs => choice rs

/-! ## Groups -/

/-- The groups of an expression, from left to right, with their names. -/
def groups : Regex → List (Nat × Option (List Char))
  | rep _ _ _ sub => sub.groups
  | group i name sub => (i, name) :: sub.groups
  | seq a b => a.groups ++ b.groups
  | alt a b => a.groups ++ b.groups
  | _ => []

end Regex

end Rewind
