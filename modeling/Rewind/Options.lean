import Rewind.Pattern.Basic

/-! Options: the classes of units that a scanner takes for words and for whitespace. -/
namespace Rewind

structure Options where
  word : Pattern
  space : Pattern

namespace Options

/-- Letters, decimal digits, `_` and `$`. -/
def wordSource : String := "[\\p\x7bL\x7d\\p\x7bNd\x7d_$]"

def spaceSource : String := "\\s"

def wordSet : CharSet :=
  .union (.union (.union (.singleton '$') (.singleton '_')) Unicode.decimalDigit) Unicode.letter

def standard : Options where
  word := .ofRegex wordSource.toList {} (.set false wordSet)
  space := .ofRegex spaceSource.toList {} (.set false Unicode.whitespace)

/-- Replaces the classes that are given. Where both are faulty the word class is reported. -/
def ofSources (word space : Option PatternSource) : Except SourceError Options := do
  let word ← match word with
    | some s => s.compile
    | none => pure standard.word
  let space ← match space with
    | some s => s.compile
    | none => pure standard.space
  return ⟨word, space⟩

def describe (o : Options) : String :=
  "ReaderOptions \x7b word_pattern: " ++ o.word.describe ++ ", whitespace_pattern: " ++
    o.space.describe ++ " \x7d"

end Options

end Rewind
