import Std.Data.HashMap
import Rewind.CharSet
import Rewind.Pattern.Footprint.Layout
import Rewind.Text.ByteRanges

/-! Layouts of character sets. The byte sequences of a set share equal parts as far as a table
recalls them: a part has one place in the table, which the next part of that place takes over. -/
namespace Rewind.Layout

abbrev ByteSequence := List Text.ByteRange

def sequencesOfSet (s : CharSet) : List ByteSequence :=
  s.ranges.flatMap fun r => Text.byteSequences r.1 r.2

/-! ## Recall -/

/-- By place, the part laid out last and the state where it starts. -/
abbrev Recall := Std.HashMap Nat (List Nat × Nat)

/-- Where a part belongs among so many places. Its numbers are mixed into 64 bits, each by an
exclusive or and a product. -/
def place (places : Nat) (part : List Nat) : Nat :=
  let mixed : UInt64 := part.foldl (fun h n => (h ^^^ n.toUInt64) * 1099511628211)
    14695981039346656037
  mixed.toNat % places

/-- The state of a part, which is added unless the table recalls it. -/
def stateOf (places : Nat) (part : List Nat) (lists : Nat) : StateT Recall Layout Nat := do
  let p := place places part
  match (← get)[p]? with
  | some (known, number) =>
    if known = part then return number
  | none => pure ()
  let number ← state lists
  modify fun table => table.insert p (part, number)
  return number

/-! ## Reading forwards -/

/-- The ranges with which sequences begin and the tails behind each. -/
def branches : List ByteSequence → List (Text.ByteRange × List ByteSequence)
  | [] => []
  | [] :: seqs => branches seqs
  | (r :: tail) :: seqs =>
    match branches seqs with
    | (r', tails) :: rest =>
      if r = r' then (r, tail :: tails) :: rest else (r, [tail]) :: (r', tails) :: rest
    | [] => [(r, [tail])]

/-- Lays out the tree of sequences of at most `n` ranges that lead to the state `stop`: a node
behind its subtrees. Places number 10000. -/
def tree (stop : Nat) : Nat → List ByteSequence → StateT Recall Layout Nat
  | 0, _ => return stop
  | n + 1, seqs => do
    let exits ← (branches seqs).mapM fun (r, tails) => do
      let next ← if tails.all List.isEmpty then pure stop else tree stop n tails
      return [r.1, r.2, next]
    stateOf 10000 exits.flatten (transitionCost * exits.length)

/-! ## Reading backwards -/

/-- Lays out a sequence that leads to the state `stop`, each range in front of those before it.
Places number 1000. -/
def chain : Nat → ByteSequence → StateT Recall Layout Nat
  | stop, [] => return stop
  | stop, r :: seq => do chain (← stateOf 1000 [stop, r.1, r.2] 0) seq

def chains (stop : Nat) : List ByteSequence → StateT Recall Layout Unit
  | [] => return ()
  | seq :: seqs => do
    let _ ← chain stop seq
    chains stop seqs

/-! ## Sets -/

/-- Lays out a set. One of ASCII characters takes a list of ranges; another is read forwards by a
tree and backwards by a fork with a way into each sequence. -/
def set (d : Direction) (s : CharSet) : Layout Unit := do
  if s.isAscii then
    plain
    grow 1 (transitionCost * s.ranges.length)
  else
    let seqs := sequencesOfSet s
    match d with
    | .forwards =>
      let stop ← state 0
      let _ ← (tree stop 4 seqs).run ∅
    | .backwards =>
      grow 1 (exitCost * seqs.length)
      let stop ← state 0
      let _ ← (chains stop seqs).run ∅

end Rewind.Layout
