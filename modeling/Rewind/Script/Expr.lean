import Rewind.Scanner.Rule
import Rewind.Script.Lexeme

/-! Expressions over numbers, identifiers and four operators, which all group to the left. -/
namespace Rewind.Script

inductive Expr where
  | number (text : List Char)
  | name (text : List Char)
  | apply (op : Char) (a b : Expr)
  deriving DecidableEq, Repr

namespace Expr

/-- Operators come before their operands, in parentheses. -/
def print : Expr → List Char
  | number text => text
  | name text => text
  | apply op a b => '(' :: op :: ' ' :: a.print ++ ' ' :: b.print ++ [')']

end Expr

open Scanner

def isBlank (c : Char) : Bool := c = ' ' || c = '\t'

def skipBlanks : Rule Nat := do
  return (← Rule.scan (takeWhile isBlank)).length

def lexeme (p : Pattern) : Rule Match := .ofScan (acceptPattern p)

def symbol (c : Char) : Rule Char := .ofScan (accept c)

def operator (ops : Char × Char) : Rule Char := symbol ops.1 <|> symbol ops.2

/-- Takes operators and operands behind a first operand, at most `n` pairs. Blanks with no operator
behind them are left. -/
def foldOperators (ops : Char × Char) (operand : Rule Expr) : Nat → Expr → Rule Expr
  | 0, _ => failure
  | n + 1, a => do
    let start := (← get).here
    let _ ← skipBlanks
    match ← Rule.scan (operator ops).run with
    | some op =>
      let _ ← skipBlanks
      let b ← operand
      foldOperators ops operand n (.apply op a b)
    | none =>
      Rule.rewind start
      return a

def operands (ops : Char × Char) (operand : Rule Expr) : Rule Expr := do
  let a ← operand
  foldOperators ops operand ((← get).remaining + 1) a

def atom (inner : Rule Expr) : Rule Expr := do
  match ← Rule.scan (acceptPattern number) with
  | some m => return .number m.matched
  | none =>
    match ← Rule.scan (accept '(') with
    | some _ =>
      let _ ← skipBlanks
      let e ← inner
      let _ ← skipBlanks
      let _ ← symbol ')'
      return e
    | none => return .name (← lexeme ident).matched

def product (inner : Rule Expr) : Rule Expr := operands ('*', '/') (atom inner)

def sum (inner : Rule Expr) : Rule Expr := operands ('+', '-') (product inner)

/-- An expression with fewer than `n` parentheses inside each other. -/
def expressionWithin : Nat → Rule Expr
  | 0 => failure
  | n + 1 => sum (expressionWithin n)

/-- An expression. No more parentheses can be open than units are to come. -/
def expression : Rule Expr := do expressionWithin ((← get).remaining + 1)

end Rewind.Script
