import Rewind.Script.Expr

/-! Scripts: statements, one to a line. A line that is no statement is reported and passed over, so
that every character of a script is blank or belongs to one record. -/
namespace Rewind.Script

open Scanner

inductive Statement where
  | fetch (target : List Char)
  | set (name : List Char) (value : Expr)
  deriving DecidableEq, Repr

namespace Statement

def print : Statement → List Char
  | fetch target => "(fetch ".toList ++ Text.quoted target ++ [')']
  | set name value => "(set ".toList ++ name ++ ' ' :: value.print ++ [')']

end Statement

/-- Takes the backslash off each escape. -/
def stripBackslashes : List Char → List Char
  | [] => []
  | ['\\'] => []
  | '\\' :: c :: cs => c :: stripBackslashes cs
  | c :: cs => c :: stripBackslashes cs

/-- The word `fetch`, blanks, and a quoted text or all up to the next whitespace. -/
def fetchLine : Rule Statement := do
  .require (acceptKeyword "fetch".toList)
  if (← skipBlanks) = 0 then failure
  match ← Rule.scan (acceptPattern quoted) with
  | some m => return .fetch (stripBackslashes (← Rule.ofOption (m.get? 1)))
  | none =>
    let naked ← Rule.scan (takeUntil Unicode.whitespace.contains)
    if naked.isEmpty then failure
    return .fetch naked

def setLine : Rule Statement := do
  .require (acceptKeyword "set".toList)
  let _ ← skipBlanks
  let name ← lexeme ident
  let _ ← skipBlanks
  let _ ← symbol '='
  let _ ← skipBlanks
  return .set name.matched (← expression)

def statement : Rule Statement := fetchLine.attempt <|> setLine.attempt

def lineIsDone : Scan Bool := do
  let _ ← takeWhile isBlank
  let c ← peek
  return c.isNone || c = some '\n'

inductive Outcome where
  | parsed (s : Statement)
  /-- The text of a line that is no statement. -/
  | failed (line : List Char)
  deriving DecidableEq, Repr

/-- What became of the text between two byte offsets. -/
structure Record where
  start : Nat
  stop : Nat
  outcome : Outcome
  deriving DecidableEq, Repr

namespace Record

def print (r : Record) : List Char :=
  match r.outcome with
  | .parsed s => s.print
  | .failed line => s!"error at {r.start}: ".toList ++ Text.quoted line

end Record

/-- Goes back to the start of a line and takes it as it is. -/
def giveUpLine (start : Checkpoint) : Scan Outcome := do
  let _ ← Rule.rewind start
  return .failed (← takeUntil (· = '\n'))

/-- Takes a statement and the rest of its line, or else the line as it is. Nothing before the end of
the record can be gone back to. -/
def record : Scan Record := do
  let s ← get
  let parsed ← statement
  let complete ← if parsed.isSome then lineIsDone else pure false
  let outcome ← match parsed with
    | some t => if complete then pure (Outcome.parsed t) else giveUpLine s.here
    | none => giveUpLine s.here
  let stop := (← get).offset
  let _ ← release
  return ⟨s.offset, stop, outcome⟩

/-- The records of what is still to come, at most `n` of them. -/
def recordsWithin : Nat → Scan (List Record)
  | 0 => return []
  | n + 1 => do
    let _ ← takeWhile Unicode.whitespace.contains
    if (← get).atEnd then return []
    let r ← record
    return r :: (← recordsWithin n)

def records (text : List Char) : List Record :=
  (recordsWithin (text.length + 1) (.ofText text .standard)).1

/-- Runs a script: prints each record on a line of its own. -/
def output (text : List Char) : List Char :=
  (records text).flatMap fun r => r.print ++ ['\n']

end Rewind.Script
