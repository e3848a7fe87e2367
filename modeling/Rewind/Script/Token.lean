import Rewind.Scanner.Basic
import Rewind.Script.Lexeme

/-! Token listings: the tokens of a line with the byte offsets between which they stand. -/
namespace Rewind.Script

open Scanner

inductive TokenKind where
  | keyword
  | ident
  | number
  | punct
  deriving DecidableEq, Repr

namespace TokenKind

def print : TokenKind → String
  | keyword => "kw"
  | ident => "ident"
  | number => "num"
  | punct => "punct"

end TokenKind

structure Token where
  kind : TokenKind
  start : Nat
  stop : Nat
  text : List Char
  deriving DecidableEq, Repr

namespace Token

def print (t : Token) : List Char :=
  t.kind.print.toList ++ ':' :: t.text ++ s!"@{t.start}..{t.stop}".toList

end Token

/-- Takes a token of the first kind that fits; any unit but the end is at least punctuation. -/
def tokenKind : Scan (Option TokenKind) := do
  if ← acceptKeyword "let".toList then return some .keyword
  if (← acceptPattern ident).isSome then return some .ident
  if (← acceptPattern number).isSome then return some .number
  if (← next).isSome then return some .punct
  return none

/-- The tokens still to come, at most `n` of them. -/
def tokenListWithin : Nat → Scan (List Token)
  | 0 => return []
  | n + 1 => do
    let _ ← takeSpace
    let start := (← get).offset
    match ← tokenKind with
    | some kind =>
      let s ← get
      let t : Token := ⟨kind, start, s.offset, Text.slice s.text start s.offset⟩
      return t :: (← tokenListWithin n)
    | none => return []

def tokenList (line : List Char) : List Token :=
  (tokenListWithin (line.length + 1) (.ofText line .standard)).1

/-- Lists the tokens of a line with a space between each two. -/
def listing (line : List Char) : List Char :=
  [' '].intercalate ((tokenList line).map Token.print)

end Rewind.Script
