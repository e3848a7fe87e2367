import Rewind.Pattern.Footprint
import Rewind.Pattern.Program.Run
import Rewind.Pattern.Regex.OfWritten
import Rewind.Pattern.Written.Parser

/-! Patterns: regular expressions that are matched at a given offset of a text and never look for a
match further on. Conditions such as `^` and `\b` see the text on both sides of the offset. -/
namespace Rewind

inductive PatternError where
  /-- The text of the pattern is faulty. -/
  | malformed
  /-- The pattern would take too much memory. -/
  | tooLarge
  | flags (e : FlagError)
  deriving DecidableEq, Repr

namespace PatternError

def message : PatternError → String
  | malformed => "invalid pattern: error parsing pattern 0"
  | tooLarge => "invalid pattern: error building NFA"
  | flags e => e.message

end PatternError

structure Pattern where
  source : List Char
  flags : Flags
  regex : Regex
  program : Program
  deriving DecidableEq, Repr

/-- A match: the whole of it and the groups with a number, each as a range of byte offsets. -/
structure Match where
  text : List Char
  start : Nat
  stop : Nat
  groups : List (Option (Nat × Nat))
  names : List (List Char × Nat)
  deriving DecidableEq, Repr

/-- A search was to begin behind the end of the text. -/
structure SpanError where
  offset : Nat
  length : Nat
  deriving DecidableEq, Repr

def SpanError.message (e : SpanError) : String :=
  s!"invalid span {e.offset}..{e.length} for haystack of length {e.length}"

namespace Pattern

def ofRegex (source : List Char) (flags : Flags) (regex : Regex) : Pattern :=
  ⟨source, flags, regex, .ofRegex regex⟩

/-- Compiles a pattern that may name the properties of a catalog. -/
def compileWith (k : Unicode.Catalog) (source : List Char) (flags : Flags) :
    Except PatternError Pattern :=
  match Written.parse? flags.ignoreWhitespace source with
  | none => .error .malformed
  | some written =>
    match written.regex? k flags with
    | none => .error .malformed
    | some regex =>
      if regex.fits then .ok (ofRegex source flags regex) else .error .tooLarge

/-- Compiles a pattern that names no properties but those that are listed here. -/
def compile (source : List Char) (flags : Flags) : Except PatternError Pattern :=
  compileWith .empty source flags

/-- Number of groups, that of the whole match included. -/
def groupCount (p : Pattern) : Nat :=
  p.regex.groups.foldl (fun n g => max n (g.1 + 1)) 1

def groupNames (p : Pattern) : List (List Char × Nat) :=
  p.regex.groups.filterMap fun g => g.2.map (·, g.1)

def toMatch (p : Pattern) (text : List Char) (offset : Nat) (found : Program.Found) : Match where
  text := text
  start := offset
  stop := found.stop
  groups := (List.range (p.groupCount - 1)).map fun i => found.closed.lookup (i + 1)
  names := p.groupNames

/-- Matches at a byte offset, which may be the length of the text. Inside a character there is no
match. -/
def applyAt? (p : Pattern) (text : List Char) (offset : Nat) : Option Match := do
  let (before, rest) ← Text.seek? none offset text
  let found ← p.program.search before offset rest
  return p.toMatch text offset found

/-- Matches at any offset. One past the end of the text there is no match; further on it is an error
to ask. -/
def applyAt (p : Pattern) (text : List Char) (offset : Nat) : Except SpanError (Option Match) :=
  if Text.width text + 1 < offset then .error ⟨offset, Text.width text⟩
  else .ok (p.applyAt? text offset)

/-- Whether the match on a text of one character takes the character. -/
def matchesOne (p : Pattern) (c : Char) : Bool :=
  (p.program.search none 0 [c]).any fun found => found.stop = c.utf8Size

def describe (p : Pattern) : String :=
  "Pattern \x7b source: " ++ Text.quote p.source ++ ", flags: " ++ p.flags.describe ++ ", .. \x7d"

end Pattern

namespace Match

def length (m : Match) : Nat := m.groups.length + 1

/-- The range of a group; the whole match is group 0. -/
def range? (m : Match) : Nat → Option (Nat × Nat)
  | 0 => some (m.start, m.stop)
  | i + 1 => m.groups[i]?.join

def get? (m : Match) (i : Nat) : Option (List Char) :=
  (m.range? i).map fun r => Text.slice m.text r.1 r.2

def matched (m : Match) : List Char := Text.slice m.text m.start m.stop

def named? (m : Match) (name : List Char) : Option (List Char) := do
  m.get? (← m.names.lookup name)

def ranges (m : Match) : List (Option (Nat × Nat)) := (List.range m.length).map m.range?

def describe (m : Match) : String :=
  let entry : Option (List Char) → String
    | none => "None"
    | some cs => "Some(" ++ Text.quote cs ++ ")"
  "[" ++ ", ".intercalate ((List.range m.length).map fun i => entry (m.get? i)) ++ "]"

end Match

/-- A pattern before it is compiled: its text and its flags, which may be written as letters. -/
structure PatternSource where
  source : List Char
  flags : Datum

inductive SourceError where
  | shape
  | pattern (e : PatternError)

namespace Flags

/-- Reads flags written as letters or in a shape of their own. -/
def read : Datum → Except SourceError Flags
  | .text s =>
    match ofLetters s.toList with
    | .ok f => .ok f
    | .error e => .error (.pattern (.flags e))
  | d =>
    match ofDatum d with
    | .ok f => .ok f
    | .error _ => .error .shape

def readOrDefault : Datum → Except SourceError Flags
  | .null => .ok {}
  | d => read d

end Flags

/-- Reads the flags, then the text under these flags. -/
def PatternSource.compile (s : PatternSource) : Except SourceError Pattern := do
  let flags ← Flags.readOrDefault s.flags
  match Pattern.compile s.source flags with
  | .ok p => .ok p
  | .error e => .error (.pattern e)

end Rewind
