import Rewind.Datum
import Rewind.Text.Quoted

/-! Flags: the options under which the text of a pattern is read. They can be written as letters, as
a record of named booleans or as a list of booleans in the order of the fields. -/
namespace Rewind

structure Flags where
  /-- Letters match regardless of case. -/
  caseInsensitive : Bool := false
  /-- Line anchors match at line ends inside the text too. -/
  multiLine : Bool := false
  /-- The dot matches a line feed. -/
  dotMatchesNewLine : Bool := false
  /-- Blanks and comments in the pattern mean nothing. -/
  ignoreWhitespace : Bool := false
  /-- A carriage return ends a line too. -/
  crlf : Bool := false
  /-- Repetitions are lazy unless marked. -/
  swapGreed : Bool := false
  /-- Classes and case are those of Unicode, otherwise of ASCII. -/
  unicode : Bool := true
  deriving DecidableEq, Repr

inductive FlagError where
  | unknown (letter : Char)
  | duplicate (letter : Char) (letters : List Char)
  deriving DecidableEq, Repr

namespace FlagError

def message : FlagError → String
  | unknown letter => s!"unknown pattern flag '{letter}'"
  | duplicate letter letters =>
    s!"duplicate pattern flag '{letter}' in " ++ Text.quote letters

end FlagError

namespace Flags

/-- Sets the flag of a letter. `g` and `y` say how to search, which is fixed; they set nothing. -/
def set? (f : Flags) : Char → Option Flags
  | 'i' => some { f with caseInsensitive := true }
  | 'm' => some { f with multiLine := true }
  | 's' => some { f with dotMatchesNewLine := true }
  | 'x' => some { f with ignoreWhitespace := true }
  | 'R' => some { f with crlf := true }
  | 'U' => some { f with swapGreed := true }
  | 'u' => some { f with unicode := true }
  | 'g' => some f
  | 'y' => some f
  | _ => none

/-- Reads the letters that follow `seen` in `letters`. -/
def setLetters (letters : List Char) (f : Flags) (seen : List Char) :
    List Char → Except FlagError Flags
  | [] => .ok f
  | c :: cs =>
    if c ∈ seen then .error (.duplicate c letters)
    else
      match f.set? c with
      | some g => setLetters letters g (c :: seen) cs
      | none => .error (.unknown c)

/-- Reads flags from letters, none of which may come twice. -/
def ofLetters (letters : List Char) : Except FlagError Flags :=
  setLetters letters {} [] letters

def fieldNames : List String :=
  ["case_insensitive", "multi_line", "dot_matches_new_line", "ignore_whitespace", "crlf",
    "swap_greed", "unicode"]

def toList (f : Flags) : List Bool :=
  [f.caseInsensitive, f.multiLine, f.dotMatchesNewLine, f.ignoreWhitespace, f.crlf, f.swapGreed,
    f.unicode]

/-- Sets the first fields to the values of a list that is no longer than the fields. -/
def ofList? : List Bool → Option Flags
  | [] => some {}
  | [i] => some { caseInsensitive := i }
  | [i, m] => some { caseInsensitive := i, multiLine := m }
  | [i, m, s] => some { caseInsensitive := i, multiLine := m, dotMatchesNewLine := s }
  | [i, m, s, x] =>
    some { caseInsensitive := i, multiLine := m, dotMatchesNewLine := s, ignoreWhitespace := x }
  | [i, m, s, x, r] => some ⟨i, m, s, x, r, false, true⟩
  | [i, m, s, x, r, g] => some ⟨i, m, s, x, r, g, true⟩
  | [i, m, s, x, r, g, u] => some ⟨i, m, s, x, r, g, u⟩
  | _ => none

def fieldOr (xs : List (String × Datum)) (name : String) (default : Bool) :
    Except ShapeError Bool :=
  match Datum.field? name xs with
  | some d => d.toBool
  | none => .ok default

/-- Reads flags from a record, where other fields are passed over, or from a list. -/
def ofDatum : Datum → Except ShapeError Flags
  | .fields xs => do
    let i ← fieldOr xs "case_insensitive" false
    let m ← fieldOr xs "multi_line" false
    let s ← fieldOr xs "dot_matches_new_line" false
    let x ← fieldOr xs "ignore_whitespace" false
    let r ← fieldOr xs "crlf" false
    let g ← fieldOr xs "swap_greed" false
    let u ← fieldOr xs "unicode" true
    return ⟨i, m, s, x, r, g, u⟩
  | .list xs => do
    let bs ← xs.mapM Datum.toBool
    match ofList? bs with
    | some f => .ok f
    | none => .error ⟨⟩
  | _ => .error ⟨⟩

def describe (f : Flags) : String :=
  "PatternFlags \x7b " ++
    ", ".intercalate ((fieldNames.zip f.toList).map fun p => p.1 ++ ": " ++ toString p.2) ++ " \x7d"

end Flags

end Rewind
