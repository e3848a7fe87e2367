import Rewind.Pattern.Basic

/-! The tokens of scripts: numbers, quoted texts and identifiers. -/
namespace Rewind.Script

def digit : Regex := .set false Unicode.decimalDigit

def digits : Regex := .rep 1 none true digit

/-- Digits, and digits after a point. -/
def number : Pattern :=
  .ofRegex "\\d+(?:\\.\\d+)?".toList {}
    (.seq digits (.rep 0 (some 1) true (.seq (.literal ['.']) digits)))

/-- Characters that stand for themselves between quotes. -/
def plainSet : CharSet := CharSet.compl ⟨[(0x22, 0x22), (0x5C, 0x5C)]⟩

/-- Characters that a backslash can precede. -/
def escapedSet : CharSet := CharSet.compl ⟨[(0xA, 0xA)]⟩

/-- A text between quotes, which are the borders of group 1. A backslash takes the next character
with it. -/
def quoted : Pattern :=
  .ofRegex "\"((?:[^\"\\\\]|\\\\.)*)\"".toList {}
    (.seq (.literal ['"'])
      (.seq
        (.group 1 none
          (.rep 0 none true
            (.alt (.set false plainSet) (.seq (.literal ['\\']) (.set false escapedSet)))))
        (.literal ['"'])))

def headSet : CharSet := ⟨[(0x41, 0x5A), (0x5F, 0x5F), (0x61, 0x7A)]⟩

/-- A letter of ASCII or `_`, then word characters. -/
def ident : Pattern :=
  .ofRegex "[A-Za-z_]\\w*".toList {}
    (.seq (.set false headSet) (.rep 0 none true (.set false Unicode.word)))

end Rewind.Script
