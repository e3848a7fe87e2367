/-! Data: self-describing values from which flags and checkpoints can be read. -/
namespace Rewind

inductive Datum where
  | null
  | bool (b : Bool)
  | int (n : Int)
  | text (s : String)
  | list (xs : List Datum)
  | fields (xs : List (String × Datum))
  deriving Inhabited

structure ShapeError where
  deriving DecidableEq, Repr

namespace Datum

def field? (name : String) (xs : List (String × Datum)) : Option Datum := xs.lookup name

def toBool : Datum → Except ShapeError Bool
  | .bool b => .ok b
  | _ => .error ⟨⟩

/-- A number that fits an unsigned 64-bit word. -/
def toWord : Datum → Except ShapeError Nat
  | .int (.ofNat n) => if n < 18446744073709551616 then .ok n else .error ⟨⟩
  | _ => .error ⟨⟩

end Datum

end Rewind
