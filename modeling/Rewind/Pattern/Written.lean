import Rewind.Pattern.Flags

/-! Patterns as they are written: the tree of a pattern's text, before flags and classes are given
their meaning. A chain of `seq` is one concatenation, a chain of `alt` one alternation. -/
namespace Rewind

inductive Flag where
  | caseInsensitive
  | multiLine
  | dotMatchesNewLine
  | ignoreWhitespace
  | crlf
  | swapGreed
  | unicode
  deriving DecidableEq, Repr

/-- Flags turned on and off, in the order written. -/
abbrev FlagChange := List (Flag × Bool)

namespace Flags

def put (f : Flags) : Flag × Bool → Flags
  | (.caseInsensitive, b) => { f with caseInsensitive := b }
  | (.multiLine, b) => { f with multiLine := b }
  | (.dotMatchesNewLine, b) => { f with dotMatchesNewLine := b }
  | (.ignoreWhitespace, b) => { f with ignoreWhitespace := b }
  | (.crlf, b) => { f with crlf := b }
  | (.swapGreed, b) => { f with swapGreed := b }
  | (.unicode, b) => { f with unicode := b }

def change (f : Flags) (c : FlagChange) : Flags := c.foldl put f

end Flags

namespace Written

/-- A character that stands for itself. `byte` marks one given by two hexadecimal digits, which is a
byte where Unicode is off. -/
structure Literal where
  char : Char
  byte : Bool
  deriving DecidableEq, Repr

inductive Assertion where
  | lineStart
  | lineEnd
  | textStart
  | textEnd
  | boundary
  | notBoundary
  | wordStart
  | wordEnd
  | wordStartHalf
  | wordEndHalf
  deriving DecidableEq, Repr

inductive Shorthand where
  | digit
  | space
  | word
  deriving DecidableEq, Repr

inductive Posix where
  | alnum
  | alpha
  | ascii
  | blank
  | cntrl
  | digit
  | graph
  | lower
  | print
  | punct
  | space
  | upper
  | word
  | xdigit
  deriving DecidableEq, Repr

inductive NamedClass where
  | shorthand (s : Shorthand) (negated : Bool)
  | posix (p : Posix) (negated : Bool)
  | property (query : List Char) (negated : Bool)
  deriving DecidableEq, Repr

inductive SetOp where
  | inter
  | diff
  | symmDiff
  deriving DecidableEq, Repr

/-- The contents of a bracketed class. A chain of `both` is one union. -/
inductive ClassBody where
  | empty
  | literal (l : Literal)
  | range (lo hi : Literal)
  | named (c : NamedClass)
  | bracketed (negated : Bool) (body : ClassBody)
  | both (a b : ClassBody)
  | combine (op : SetOp) (a b : ClassBody)
  deriving DecidableEq, Repr

namespace ClassBody

def ofItems : List ClassBody → ClassBody
  | [] => empty
  | [a] => a
  | a :: as => both a (ofItems as)

/-- Levels of brackets, unions and operators below this one. -/
def depth (inUnion : Bool) : ClassBody → Nat
  | bracketed _ body => 1 + body.depth false
  | both a b => (if inUnion then 0 else 1) + max (a.depth true) (b.depth true)
  | combine _ a b => 1 + max (a.depth false) (b.depth false)
  | _ => 0

end ClassBody

end Written

inductive Written where
  | empty
  | directive (c : FlagChange)
  | literal (l : Written.Literal)
  | dot
  | assertion (a : Written.Assertion)
  | named (c : Written.NamedClass)
  | bracketed (negated : Bool) (body : Written.ClassBody)
  | group (index : Nat) (name : Option (List Char)) (sub : Written)
  | flagged (c : FlagChange) (sub : Written)
  | rep (min : Nat) (max : Option Nat) (greedy : Bool) (sub : Written)
  | seq (a b : Written)
  | alt (a b : Written)
  deriving DecidableEq, Repr

namespace Written

def concat : List Written → Written
  | [] => empty
  | [a] => a
  | a :: as => seq a (concat as)

def alternation : List Written → Written
  | [] => empty
  | [a] => a
  | a :: as => alt a (alternation as)

/-- Where a tree stands, as far as its depth depends on it. -/
inductive Place where
  | inside
  | inSeq
  | inAlt
  deriving DecidableEq, Repr

/-- Levels of nesting: groups, repetitions, brackets, and concatenations and alternations of two or
more parts. -/
def depth (place : Place) : Written → Nat
  | bracketed _ body => 1 + body.depth false
  | group _ _ sub => 1 + sub.depth .inside
  | flagged _ sub => 1 + sub.depth .inside
  | rep _ _ _ sub => 1 + sub.depth .inside
  | seq a b => (if place = .inSeq then 0 else 1) + max (a.depth .inSeq) (b.depth .inSeq)
  | alt a b => (if place = .inAlt then 0 else 1) + max (a.depth .inAlt) (b.depth .inAlt)
  | _ => 0

def maxDepth : Nat := 250

/-- Whether a repetition mark can follow: neither nothing nor a change of flags can be repeated. -/
def repeatable : Written → Bool
  | empty => false
  | directive _ => false
  | _ => true

end Written

end Rewind
