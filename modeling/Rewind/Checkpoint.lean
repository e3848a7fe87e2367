import Rewind.Datum

/-! Checkpoints: positions of a scanner that it can be sent back to, and the two ways in which a
position can be refused. -/
namespace Rewind

/-- A position by the number of units before it and the number of bytes that they take. -/
structure Checkpoint where
  cursor : Nat
  offset : Nat
  deriving DecidableEq, Repr

namespace Checkpoint

/-- Reads a checkpoint from a record, where other fields are passed over, or from a pair. -/
def ofDatum : Datum → Except ShapeError Checkpoint
  | .fields xs => do
    match Datum.field? "cursor" xs, Datum.field? "offset" xs with
    | some c, some o => return ⟨← c.toWord, ← o.toWord⟩
    | _, _ => .error ⟨⟩
  | .list [c, o] => do return ⟨← c.toWord, ← o.toWord⟩
  | _ => .error ⟨⟩

def describe (c : Checkpoint) : String :=
  "Checkpoint \x7b cursor: " ++ toString c.cursor ++ ", offset: " ++ toString c.offset ++ " \x7d"

end Checkpoint

inductive CheckpointError where
  /-- The unit was released, or none of that index has arrived yet. -/
  | outOfRange (checkpoint low high : Nat)
  /-- The unit is retained but starts at another byte. -/
  | mismatch (checkpoint offset expected : Nat)
  deriving DecidableEq, Repr

namespace CheckpointError

def message : CheckpointError → String
  | outOfRange checkpoint low high =>
    s!"checkpoint {checkpoint} is outside the retained range {low}..={high}"
  | mismatch checkpoint offset expected =>
    s!"checkpoint {checkpoint} claims byte offset {offset}, but that unit starts at {expected}"

end CheckpointError

end Rewind
