import Rewind.Pattern.Written
import Rewind.Unicode.Alphabetic
import Rewind.Unicode.Number
import Rewind.Unicode.Whitespace

/-! Reading a pattern's text, from left to right. What is kept is the rest of the text, the groups
met so far, and whether blanks and comments are to be passed over. `none` is a fault in the text;
all faults are alike. -/
namespace Rewind.Written

structure Reading where
  rest : List Char
  /-- Blanks and comments mean nothing here. -/
  verbose : Bool
  groups : Nat
  names : List (List Char)

abbrev Parse := StateT Reading Option

def isBlank (c : Char) : Bool := Unicode.whitespace.contains c

/-- Passes over blanks and over comments, which run from `#` to the end of a line. -/
def dropBlanks (inComment : Bool) : List Char → List Char
  | [] => []
  | c :: cs =>
    if inComment then dropBlanks (c != '\n') cs
    else if isBlank c then dropBlanks false cs
    else if c = '#' then dropBlanks true cs
    else c :: cs

namespace Parse

def rest : Parse (List Char) := return (← get).rest

def setRest (cs : List Char) : Parse Unit := modify fun r => { r with rest := cs }

def peek? : Parse (Option Char) := return (← get).rest.head?

/-- The character here; a fault at the end. -/
def peek : Parse Char := do
  match ← peek? with
  | some c => return c
  | none => failure

def bump : Parse Unit := modify fun r => { r with rest := r.rest.tail }

def skipBlanks : Parse Unit :=
  modify fun r => if r.verbose then { r with rest := dropBlanks false r.rest } else r

/-- Goes one character on and over the blanks that follow. -/
def advance : Parse Unit := do
  bump
  skipBlanks

/-- Goes on to a character that must be there. -/
def advanceTo : Parse Char := do
  advance
  peek

def take? (s : List Char) : Parse Bool := do
  let cs ← rest
  if s.isPrefixOf cs then
    setRest (cs.drop s.length)
    return true
  else return false

end Parse

open Parse

/-! ## Numbers -/

def isHex (c : Char) : Bool :=
  ('0' ≤ c && c ≤ '9') || ('a' ≤ c && c ≤ 'f') || ('A' ≤ c && c ≤ 'F')

def hexValue (c : Char) : Nat :=
  if c ≤ '9' then c.toNat - '0'.toNat
  else if c ≤ 'F' then c.toNat - 'A'.toNat + 10
  else c.toNat - 'a'.toNat + 10

/-- The character of a code, unless the code is a surrogate or too large. -/
def charOfCode? (n : Nat) : Option Char :=
  if n.isValidChar then some (Char.ofNat n) else none

def charOfHex? (ds : List Char) : Option Char :=
  charOfCode? (ds.foldl (fun n d => n * 16 + hexValue d) 0)

/-- The value of decimal digits, if it is below `2 ^ 32`. -/
def count? (ds : List Char) : Option Nat :=
  let n := ds.foldl (fun n d => n * 10 + (d.toNat - '0'.toNat)) 0
  if ds ≠ [] ∧ n < 4294967296 then some n else none

/-- Takes characters of a kind, each with the blanks behind it. -/
def takeRun (p : Char → Bool) : Nat → Parse (List Char)
  | 0 => return []
  | n + 1 => do
    match ← peek? with
    | some c =>
      if p c then
        advance
        return c :: (← takeRun p n)
      else return []
    | none => return []

/-- A decimal number, with blanks on either side whatever the flags. -/
def decimal : Parse Nat := do
  setRest ((← rest).dropWhile isBlank)
  let ds ← takeRun Char.isDigit (← rest).length
  setRest ((← rest).dropWhile isBlank)
  count? ds

/-- Exactly `n` hexadecimal digits, the first of them here. -/
def hexDigits : Nat → Parse (List Char)
  | 0 => return []
  | n + 1 => do
    let c ← peek
    if !isHex c then failure
    advance
    return c :: (← hexDigits n)

/-- Hexadecimal digits after an opening brace, to the closing one. -/
def bracedHex : Parse (List Char) := do
  let ds ← takeRun isHex (← rest).length
  if (← peek) ≠ '\x7d' then failure
  advance
  return ds

/-- A character by its code; the letter tells how many digits there are without braces. -/
def hexLiteral (letter : Char) : Parse Literal := do
  if (← advanceTo) = '\x7b' then
    advance
    let ds ← bracedHex
    if ds.isEmpty then failure
    return ⟨← charOfHex? ds, false⟩
  else
    let digits := if letter = 'x' then 2 else if letter = 'u' then 4 else 8
    return ⟨← charOfHex? (← hexDigits digits), letter = 'x'⟩

/-! ## Escapes -/

inductive Primitive where
  | literal (l : Literal)
  | assertion (a : Assertion)
  | dot
  | named (c : NamedClass)

def verbatim (c : Char) : Primitive := .literal ⟨c, false⟩

/-- Characters before a brace that closes a property's name. -/
def propertyName : Nat → Parse (List Char)
  | 0 => failure
  | n + 1 => do
    let c ← advanceTo
    if c = '\x7d' then return []
    else return c :: (← propertyName n)

def propertyClass (negated : Bool) : Parse NamedClass := do
  let c ← advanceTo
  if c = '\x7b' then
    let name ← propertyName (← rest).length
    bump
    return .property name negated
  else if c = '\\' then failure
  else
    advance
    return .property [c] negated

def isBoundaryNameChar (c : Char) : Bool :=
  ('A' ≤ c && c ≤ 'Z') || ('a' ≤ c && c ≤ 'z') || c = '-'

def boundaryOfName? : List Char → Option Assertion
  | ['s', 't', 'a', 'r', 't'] => some .wordStart
  | ['e', 'n', 'd'] => some .wordEnd
  | ['s', 't', 'a', 'r', 't', '-', 'h', 'a', 'l', 'f'] => some .wordStartHalf
  | ['e', 'n', 'd', '-', 'h', 'a', 'l', 'f'] => some .wordEndHalf
  | _ => none

/-- A word boundary with or without a name in braces. Braces that hold no name are left to be read
as a repetition. -/
def boundary : Parse Assertion := do
  let start ← rest
  match start with
  | '\x7b' :: _ =>
    let c ← advanceTo
    if isBoundaryNameChar c then
      let name ← takeRun isBoundaryNameChar (← rest).length
      if (← peek) ≠ '\x7d' then failure
      bump
      boundaryOfName? name
    else
      setRest start
      return .boundary
  | _ => return .boundary

/-- Whether a backslash before the character means the character itself. -/
def isEscapable (c : Char) : Bool :=
  decide (c.toNat < 128) && !c.isAlphanum && c ≠ '<' && c ≠ '>'

def letterEscape (c : Char) : Parse Primitive :=
  match c with
  | 'a' => return verbatim '\x07'
  | 'f' => return verbatim '\x0c'
  | 't' => return verbatim '\t'
  | 'n' => return verbatim '\n'
  | 'r' => return verbatim '\r'
  | 'v' => return verbatim '\x0b'
  | 'A' => return .assertion .textStart
  | 'z' => return .assertion .textEnd
  | 'b' => return .assertion (← boundary)
  | 'B' => return .assertion .notBoundary
  | '<' => return .assertion .wordStart
  | '>' => return .assertion .wordEnd
  | 'd' => return .named (.shorthand .digit false)
  | 'D' => return .named (.shorthand .digit true)
  | 's' => return .named (.shorthand .space false)
  | 'S' => return .named (.shorthand .space true)
  | 'w' => return .named (.shorthand .word false)
  | 'W' => return .named (.shorthand .word true)
  | _ => failure

def escapeSequence : Parse Primitive := do
  bump
  let c ← peek
  if c = 'x' ∨ c = 'u' ∨ c = 'U' then return .literal (← hexLiteral c)
  else if c = 'p' ∨ c = 'P' then return .named (← propertyClass (c = 'P'))
  else
    bump
    if isEscapable c then return verbatim c else letterEscape c

/-! ## Bracketed classes -/

def posixOfName? (name : String) : Option Posix :=
  [("alnum", Posix.alnum), ("alpha", .alpha), ("ascii", .ascii), ("blank", .blank),
    ("cntrl", .cntrl), ("digit", .digit), ("graph", .graph), ("lower", .lower), ("print", .print),
    ("punct", .punct), ("space", .space), ("upper", .upper), ("word", .word),
    ("xdigit", .xdigit)].lookup name

/-- A named class in the form `[:name:]`, or nothing where the bracket opens a class. -/
def posix? : List Char → Option (NamedClass × List Char)
  | '[' :: ':' :: cs =>
    let negated := cs.head? = some '^'
    let cs := if negated then cs.tail else cs
    match cs.dropWhile (· ≠ ':') with
    | ':' :: ']' :: r =>
      (posixOfName? (String.ofList (cs.takeWhile (· ≠ ':')))).map fun p => (.posix p negated, r)
    | _ => none
  | _ => none

def operator? : List Char → Option (SetOp × List Char)
  | '&' :: '&' :: r => some (.inter, r)
  | '-' :: '-' :: r => some (.diff, r)
  | '~' :: '~' :: r => some (.symmDiff, r)
  | _ => none

def classPrimitive : Parse Primitive := do
  let c ← peek
  if c = '\\' then escapeSequence
  else
    bump
    return verbatim c

def Primitive.toItem? : Primitive → Option ClassBody
  | .literal l => some (.literal l)
  | .named c => some (.named c)
  | _ => none

def Primitive.toLiteral? : Primitive → Option Literal
  | .literal l => some l
  | _ => none

/-- The first character that is no blank, where one `#` counts as a blank. -/
def firstSolid? (hashSeen : Bool) : List Char → Option Char
  | [] => none
  | c :: cs =>
    if isBlank c then firstSolid? hashSeen cs
    else if c = '#' ∧ !hashSeen then firstSolid? true cs
    else some c

/-- The character that follows the one here, blanks apart where they mean nothing. -/
def peekSecond : Parse (Option Char) := do
  let r ← get
  let cs := r.rest.tail
  return if r.verbose then (firstSolid? false cs).or cs.head? else cs.head?

def classItem : Parse ClassBody := do
  let first ← classPrimitive
  skipBlanks
  let c ← peek
  let second ← peekSecond
  if c ≠ '-' ∨ second = some ']' ∨ second = some '-' then first.toItem?
  else
    let _ ← advanceTo
    let last ← classPrimitive
    let lo ← first.toLiteral?
    let hi ← last.toLiteral?
    if lo.char ≤ hi.char then return .range lo hi else failure

/-- Dashes at the start of a class, which stand for themselves. -/
def leadingDashes : Nat → Parse (List ClassBody)
  | 0 => failure
  | n + 1 => do
    if (← peek) = '-' then
      let _ ← advanceTo
      return .literal ⟨'-', false⟩ :: (← leadingDashes n)
    else return []

/-- The start of a class, from its bracket on: whether it is negated, and the items that mean
something else further on. -/
def classOpening : Parse (Bool × List ClassBody) := do
  let c ← advanceTo
  let negated := c = '^'
  if negated then let _ ← advanceTo
  let dashes ← leadingDashes (← rest).length
  if dashes.isEmpty && (← peek) = ']' then
    let _ ← advanceTo
    return (negated, [.literal ⟨']', false⟩])
  else return (negated, dashes)

/-- The operand after an operator joins what stands before it. -/
def joinOperand (before : Option (SetOp × ClassBody)) (items : List ClassBody) : ClassBody :=
  match before with
  | some (op, a) => .combine op a (.ofItems items.reverse)
  | none => .ofItems items.reverse

/-- The rest of a class after its opening, through the closing bracket. `items` are those of the
operand at hand, the last one first. -/
def classRest : Nat → Option (SetOp × ClassBody) → List ClassBody → Parse ClassBody
  | 0, _, _ => failure
  | n + 1, before, items => do
    skipBlanks
    let cs ← rest
    if let some (c, r) := posix? cs then
      setRest r
      classRest n before (.named c :: items)
    else if let some (op, r) := operator? cs then
      setRest r
      classRest n (some (op, joinOperand before items)) []
    else
      match cs with
      | [] => failure
      | '[' :: _ =>
        let (negated, first) ← classOpening
        let body ← classRest n none first.reverse
        classRest n before (.bracketed negated body :: items)
      | ']' :: r =>
        setRest r
        return joinOperand before items
      | _ => classRest n before ((← classItem) :: items)

def bracketedClass : Parse Written := do
  let (negated, first) ← classOpening
  let body ← classRest ((← rest).length + 1) none first.reverse
  return .bracketed negated body

/-! ## Repetitions -/

def lazyMark : Parse Bool := take? ['?']

/-- The bounds of a counted repetition, from its brace through the closing one. -/
def countedBounds : Parse (Nat × Option Nat) := do
  let _ ← advanceTo
  let min ← decimal
  let c ← peek
  let bounds ← if c = ',' then do
      if (← advanceTo) = '\x7d' then pure (min, none)
      else do
        let max ← decimal
        pure (min, some max)
    else pure (min, some min)
  if (← peek) ≠ '\x7d' then failure
  advance
  match bounds.2 with
  | some max => if min ≤ max then return bounds else failure
  | none => return bounds

def repetitionBounds : Char → Parse (Nat × Option Nat)
  | '?' => do bump; return (0, some 1)
  | '*' => do bump; return (0, none)
  | '+' => do bump; return (1, none)
  | _ => countedBounds

/-- Applies a repetition mark to the last of the items. -/
def repetition (mark : Char) : List Written → Parse (List Written)
  | [] => failure
  | item :: items => do
    if !item.repeatable then failure
    let (min, max) ← repetitionBounds mark
    let isLazy ← lazyMark
    return .rep min max (!isLazy) item :: items

/-! ## Groups -/

def flagOfLetter? : Char → Option Flag
  | 'i' => some .caseInsensitive
  | 'm' => some .multiLine
  | 's' => some .dotMatchesNewLine
  | 'x' => some .ignoreWhitespace
  | 'R' => some .crlf
  | 'U' => some .swapGreed
  | 'u' => some .unicode
  | _ => none

/-- Flag letters up to a colon or a closing parenthesis, which is left. No letter may come twice,
and one dash may stand before the letters that are turned off. -/
def flagLetters : Nat → (on : Bool) → FlagChange → Parse FlagChange
  | 0, _, _ => failure
  | n + 1, on, c => do
    match ← peek with
    | ':' => return c
    | ')' => return c
    | '-' =>
      bump
      let next ← peek
      if !on ∨ next = ':' ∨ next = ')' then failure
      flagLetters n false c
    | l =>
      let flag ← flagOfLetter? l
      if c.any (·.1 = flag) then failure
      bump
      flagLetters n on (c ++ [(flag, on)])

def isNameStart (c : Char) : Bool := c = '_' || Unicode.alphabetic.contains c

def isNameRest (c : Char) : Bool :=
  c = '_' || c = '.' || c = '[' || c = ']' || Unicode.alphabetic.contains c ||
    Unicode.number.contains c

/-- A group name and the bracket after it. No two groups have the same name. -/
def groupName : Parse (List Char) := do
  match (← rest).span (· ≠ '>') with
  | (c :: cs, '>' :: r) =>
    if !(isNameStart c && cs.all isNameRest) then failure
    if (c :: cs) ∈ (← get).names then failure
    modify fun s => { s with rest := r, names := (c :: cs) :: s.names }
    return c :: cs
  | _ => failure

inductive Opening where
  | directive (c : FlagChange)
  | flagged (c : FlagChange)
  | group (index : Nat) (name : Option (List Char))

def nextGroup : Parse Nat := do
  modify fun r => { r with groups := r.groups + 1 }
  return (← get).groups

def isLookaround (cs : List Char) : Bool :=
  [['?', '='], ['?', '!'], ['?', '<', '='], ['?', '<', '!']].any (·.isPrefixOf cs)

def opening : Parse Opening := do
  advance
  if isLookaround (← rest) then failure
  if (← take? ['?', 'P', '<']) || (← take? ['?', '<']) then
    let index ← nextGroup
    return .group index (some (← groupName))
  else if ← take? ['?'] then
    let c ← flagLetters ((← rest).length + 1) true []
    let last ← peek
    bump
    if last = ':' then return .flagged c
    else if c.isEmpty then failure
    else return .directive c
  else return .group (← nextGroup) none

def setVerbose (c : FlagChange) : Parse Unit :=
  modify fun r => { r with verbose := ((c.lookup .ignoreWhitespace).getD r.verbose) }

/-! ## Expressions -/

def Primitive.toWritten : Primitive → Written
  | .literal l => .literal l
  | .assertion a => .assertion a
  | .dot => .dot
  | .named c => .named c

def primitive : Parse Primitive := do
  let c ← peek
  if c = '\\' then escapeSequence
  else
    bump
    match c with
    | '.' => return .dot
    | '^' => return .assertion .lineStart
    | '$' => return .assertion .lineEnd
    | _ => return verbatim c

/-- The inside of a group and its closing parenthesis. Changes of flags inside end with it. -/
def enclosed (c : FlagChange) (inside : Parse Written) : Parse Written := do
  let verbose := (← get).verbose
  setVerbose c
  let sub ← inside
  if (← peek) ≠ ')' then failure
  modify fun r => { r with verbose := verbose }
  bump
  return sub

/-- An expression up to a closing parenthesis or the end, which is left. `alts` are the finished
alternatives and `items` the parts of the one at hand, each with the last one first. -/
def expression : Nat → (alts items : List Written) → Parse Written
  | 0, _, _ => failure
  | n + 1, alts, items => do
    skipBlanks
    match ← peek? with
    | none => return .alternation (Written.concat items.reverse :: alts).reverse
    | some ')' => return .alternation (Written.concat items.reverse :: alts).reverse
    | some '|' =>
      bump
      expression n (Written.concat items.reverse :: alts) []
    | some '(' =>
      match ← opening with
      | .directive c =>
        setVerbose c
        expression n alts (.directive c :: items)
      | .flagged c =>
        let sub ← enclosed c (expression n [] [])
        expression n alts (.flagged c sub :: items)
      | .group index name =>
        let sub ← enclosed [] (expression n [] [])
        expression n alts (.group index name sub :: items)
    | some '[' => expression n alts ((← bracketedClass) :: items)
    | some c =>
      if c = '?' ∨ c = '*' ∨ c = '+' ∨ c = '\x7b' then
        expression n alts (← repetition c items)
      else expression n alts ((← primitive).toWritten :: items)

/-- The tree of a pattern's text. -/
def parse? (verbose : Bool) (source : List Char) : Option Written := do
  let (w, r) ← (expression (source.length + 1) [] []).run ⟨source, verbose, 0, []⟩
  if r.rest.isEmpty && decide (w.depth .inside ≤ maxDepth) then some w else none

end Rewind.Written
