import Rewind.Pattern.Footprint.Sets
import Rewind.Pattern.Footprint.Words
import Rewind.Pattern.Regex

/-! Footprints: the memory that the byte automata of an expression would take, one reading forwards
and one backwards. Expressions of which either goes beyond the limit are refused. A layout stops at
the limit, so refusing is cheap however often a part is repeated. -/
namespace Rewind.Regex

/-! ## Anchors -/

/-- Whether each match begins by passing a condition, as far as the parts without width tell. -/
def beginsWith (l : Look) : Regex → Bool
  | look l' => l' = l
  | rep min _ _ sub => 0 < min && sub.beginsWith l
  | group _ _ sub => sub.beginsWith l
  | seq a b => a.beginsWith l || (a.maxWidth = some 0 && b.beginsWith l)
  | alt a b => a.beginsWith l && b.beginsWith l
  | _ => false

/-- Whether each match ends by passing a condition, as far as the parts without width tell. -/
def endsWith (l : Look) : Regex → Bool
  | look l' => l' = l
  | rep min _ _ sub => 0 < min && sub.endsWith l
  | group _ _ sub => sub.endsWith l
  | seq a b => b.endsWith l || (b.maxWidth = some 0 && a.endsWith l)
  | alt a b => a.endsWith l && b.endsWith l
  | _ => false

/-- Whether reading can begin only at the border of the text. -/
def anchored : Direction → Regex → Bool
  | .forwards, r => r.beginsWith .textStart
  | .backwards, r => r.endsWith .textEnd

/-! ## Layouts -/

/-- The texts between which an expression is a choice, if it is nothing else. -/
def texts? (r : Regex) : Option (List (List Char)) :=
  r.alternatives.mapM fun
    | literal cs => some cs
    | _ => none

/-- Where an expression stands in an alternation. -/
inductive Place where
  | alone
  | second
  | later
  deriving DecidableEq, Repr

/-- What is added behind an alternative. The fork and the state where the alternatives meet come
behind the second. -/
def Place.close : Place → Layout Unit
  | alone => return ()
  | second => do
    Layout.fork
    Layout.plain
  | later => Layout.exit

/-- Lays out `n` copies in a row, for none an empty state. -/
def run (once : Layout Unit) (n : Nat) : Layout Unit :=
  if n = 0 then Layout.plain else Layout.copies once n

/-- Lays out an expression. A repetition without an upper limit goes back to its last copy; copies
that need not match are inside each other and lead to one end. -/
def lay (d : Direction) : Place → Regex → Layout Unit
  | place, alt a b => do
    match place, (alt a b).texts? with
    | .alone, some texts => Layout.words d texts
    | _, _ =>
      lay d .alone a
      place.close
      lay d (if place = .alone then .second else .later) b
  | place, seq a b => do
    match d with
    | .forwards =>
      lay d .alone a
      lay d .alone b
    | .backwards =>
      lay d .alone b
      lay d .alone a
    place.close
  | place, group _ _ sub => do
    match d with
    | .forwards =>
      Layout.plain
      lay d .alone sub
      Layout.plain
    | .backwards => lay d .alone sub
    place.close
  | place, rep min max _ sub => do
    let once := lay d .alone sub
    match min, max with
    | 0, some 1 =>
      Layout.fork
      once
      Layout.plain
    | 0, none =>
      if sub.minWidth.getD 0 = 0 then
        once
        Layout.fork
        Layout.fork
        Layout.plain
      else
        Layout.fork
        once
    | min, none =>
      Layout.copies once min
      Layout.fork
    | min, some max =>
      run once min
      if min ≠ max then
        Layout.plain
        Layout.copies (do Layout.fork; once) (max - min)
    place.close
  | place, literal cs => do
    Layout.grow (Text.width cs) 0
    place.close
  | place, set _ s => do
    Layout.set d s
    place.close
  | place, _ => do
    Layout.plain
    place.close

/-- Lays out a whole automaton: in front of the expression a loop over all bytes where reading can
begin anywhere, around it the borders of a match when reading forwards, behind it the end. -/
def layAll (d : Direction) (r : Regex) : Layout Unit := do
  if r.anchored d then Layout.plain
  else
    Layout.fork
    Layout.plain
    Layout.grow 1 transitionCost
  match d with
  | .forwards =>
    Layout.plain
    r.lay d .alone
    Layout.plain
  | .backwards => r.lay d .alone
  Layout.plain

def fits (r : Regex) : Bool :=
  ((r.layAll .forwards).run ⟨0, 0⟩).isSome && ((r.layAll .backwards).run ⟨0, 0⟩).isSome

end Rewind.Regex
