import Rewind.Pattern.Basic

/-! Criteria: conditions on one unit, which tell where a run of units goes on or stops. -/
namespace Rewind

inductive Criterion where
  | char (c : Char)
  | anyOf (cs : List Char)
  /-- The pattern matches the unit and nothing less. -/
  | pattern (p : Pattern)
  | whitespace
  | asciiDigit
  | asciiAlpha
  | ascii
  | always
  | never
  /-- Units of more than one byte. -/
  | wide

namespace Criterion

def holds : Criterion → Char → Bool
  | char c, x => x = c
  | anyOf cs, x => cs.contains x
  | pattern p, x => p.matchesOne x
  | whitespace, x => Unicode.whitespace.contains x
  | asciiDigit, x => x.isDigit
  | asciiAlpha, x => x.isAlpha
  | ascii, x => x.toNat < 128
  | always, _ => true
  | never, _ => false
  | wide, x => 1 < x.utf8Size

end Criterion

/-- A criterion whose pattern, if it has one, is not compiled yet. -/
inductive CriterionSource where
  | plain (d : Criterion)
  | pattern (s : PatternSource)

def CriterionSource.compile : CriterionSource → Except SourceError Criterion
  | plain d => .ok d
  | pattern s => s.compile.map .pattern

end Rewind
