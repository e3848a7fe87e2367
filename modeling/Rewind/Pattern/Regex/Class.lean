import Rewind.Pattern.Written
import Rewind.Unicode.Alphabetic
import Rewind.Unicode.CaseFold
import Rewind.Unicode.DecimalDigit
import Rewind.Unicode.Greek
import Rewind.Unicode.Letter
import Rewind.Unicode.LowercaseLetter
import Rewind.Unicode.Number
import Rewind.Unicode.UppercaseLetter
import Rewind.Unicode.Whitespace
import Rewind.Unicode.Word

/-! The sets of characters that written classes stand for. With Unicode off a class may hold ASCII
characters only, since others take more than a byte. Properties of characters that have no table here
are looked up in a catalog. -/
namespace Rewind

/-- Sets of characters by the name of a property, or by its name and a value. -/
structure Unicode.Catalog where
  lone? : List Char → Option CharSet
  valued? : List Char → List Char → Option CharSet

def Unicode.Catalog.empty : Catalog where
  lone? _ := none
  valued? _ _ := none

namespace Written

namespace Shorthand

def unicodeSet : Shorthand → CharSet
  | digit => Unicode.decimalDigit
  | space => Unicode.whitespace
  | word => Unicode.word

def asciiSet : Shorthand → CharSet
  | digit => ⟨[(0x30, 0x39)]⟩
  | space => ⟨[(0x9, 0xD), (0x20, 0x20)]⟩
  | word => ⟨[(0x30, 0x39), (0x41, 0x5A), (0x5F, 0x5F), (0x61, 0x7A)]⟩

end Shorthand

def Posix.toSet : Posix → CharSet
  | alnum => ⟨[(0x30, 0x39), (0x41, 0x5A), (0x61, 0x7A)]⟩
  | alpha => ⟨[(0x41, 0x5A), (0x61, 0x7A)]⟩
  | ascii => .ascii
  | blank => ⟨[(0x9, 0x9), (0x20, 0x20)]⟩
  | cntrl => ⟨[(0x0, 0x1F), (0x7F, 0x7F)]⟩
  | digit => ⟨[(0x30, 0x39)]⟩
  | graph => ⟨[(0x21, 0x7E)]⟩
  | lower => ⟨[(0x61, 0x7A)]⟩
  | print => ⟨[(0x20, 0x7E)]⟩
  | punct => ⟨[(0x21, 0x2F), (0x3A, 0x40), (0x5B, 0x60), (0x7B, 0x7E)]⟩
  | space => ⟨[(0x9, 0xD), (0x20, 0x20)]⟩
  | upper => ⟨[(0x41, 0x5A)]⟩
  | word => ⟨[(0x30, 0x39), (0x41, 0x5A), (0x5F, 0x5F), (0x61, 0x7A)]⟩
  | xdigit => ⟨[(0x30, 0x39), (0x41, 0x46), (0x61, 0x66)]⟩

/-- A property's name without case, blanks, dashes, underscores and a leading `is`. -/
def looseName (name : List Char) : List Char :=
  let name := name.map Char.toLower
  let name := if ['i', 's'].isPrefixOf name then name.drop 2 else name
  name.filter fun c => decide (c.toNat < 128) && !(c = ' ' || c = '_' || c = '-')

def generalCategory? (name : List Char) : Option CharSet :=
  [("any", CharSet.all), ("ascii", .ascii), ("l", Unicode.letter), ("letter", Unicode.letter),
    ("lu", Unicode.uppercaseLetter), ("uppercaseletter", Unicode.uppercaseLetter),
    ("ll", Unicode.lowercaseLetter), ("lowercaseletter", Unicode.lowercaseLetter),
    ("nd", Unicode.decimalDigit), ("decimalnumber", Unicode.decimalDigit),
    ("digit", Unicode.decimalDigit), ("n", Unicode.number),
    ("number", Unicode.number)].lookup (String.ofList (looseName name))

def script? (name : List Char) : Option CharSet :=
  [("greek", Unicode.greek), ("grek", Unicode.greek)].lookup (String.ofList (looseName name))

def binaryProperty? (name : List Char) : Option CharSet :=
  [("alphabetic", Unicode.alphabetic), ("alpha", Unicode.alphabetic),
    ("whitespace", Unicode.whitespace), ("wspace", Unicode.whitespace),
    ("space", Unicode.whitespace)].lookup (String.ofList (looseName name))

def splitAt? (mark : List Char) : List Char → Option (List Char × List Char)
  | [] => none
  | c :: cs =>
    if mark.isPrefixOf (c :: cs) then some ([], (c :: cs).drop mark.length)
    else (splitAt? mark cs).map fun p => (c :: p.1, p.2)

/-- A property by its value alone, from the tables or else from the catalog. -/
def loneProperty? (k : Unicode.Catalog) (value : List Char) : Option CharSet :=
  (((binaryProperty? value).or (generalCategory? value)).or (script? value)).or
    (k.lone? (looseName value))

/-- A property by its name and value, from the tables or else from the catalog. -/
def propertyOf? (k : Unicode.Catalog) (name value : List Char) : Option CharSet :=
  let listed :=
    match String.ofList (looseName name) with
    | "gc" => generalCategory? value
    | "generalcategory" => generalCategory? value
    | "sc" => script? value
    | "script" => script? value
    | _ => none
  listed.or (k.valued? (looseName name) (looseName value))

/-- A property, and whether it is one that characters must not have. Name and value stand around
`!=`, else around `:`, else around `=`. -/
def property? (k : Unicode.Catalog) (query : List Char) : Option (CharSet × Bool) :=
  match splitAt? ['!', '='] query with
  | some (name, value) => (propertyOf? k name value).map (·, true)
  | none =>
    let found :=
      match (splitAt? [':'] query).or (splitAt? ['='] query) with
      | some (name, value) => propertyOf? k name value
      | none => loneProperty? k query
    found.map (·, false)

/-- Adds the characters that differ in case only, if case does not count. -/
def foldCase (f : Flags) (s : CharSet) : CharSet :=
  if !f.caseInsensitive then s
  else Unicode.closeUnder (if f.unicode then Unicode.foldRuns else Unicode.asciiFoldRuns) s

/-- The complement of a set if `negated`. Outside a set of ASCII characters lie others. -/
def negate? (f : Flags) (negated : Bool) (s : CharSet) : Option CharSet :=
  if !negated then some s else if f.unicode then some s.compl else none

def NamedClass.set? (k : Unicode.Catalog) (f : Flags) : NamedClass → Option CharSet
  | .shorthand s negated => negate? f negated (if f.unicode then s.unicodeSet else s.asciiSet)
  | .posix p negated => negate? f negated (foldCase f p.toSet)
  | .property query negated => do
    if !f.unicode then none
    let (s, excluded) ← property? k query
    negate? f (negated != excluded) (foldCase f s)

namespace Literal

/-- Whether the literal is a byte that begins no character. -/
def isLoneByte (f : Flags) (l : Literal) : Bool :=
  !f.unicode && l.byte && decide (0x80 ≤ l.char.toNat)

def allowed (f : Flags) (l : Literal) : Bool := f.unicode || decide (l.char.toNat < 0x80)

end Literal

def SetOp.apply : SetOp → CharSet → CharSet → CharSet
  | inter => .inter
  | diff => .diff
  | symmDiff => .symmDiff

/-- The set that the contents of a class stand for, before the class itself folds case. -/
def ClassBody.set? (k : Unicode.Catalog) (f : Flags) : ClassBody → Option CharSet
  | .empty => some .empty
  | .literal l => if l.allowed f then some (.singleton l.char) else none
  | .range lo hi =>
    if lo.allowed f && hi.allowed f then some (.ofRange lo.char hi.char) else none
  | .named c => c.set? k f
  | .bracketed negated body => do negate? f negated (foldCase f (← body.set? k f))
  | .both a b => do return .union (← a.set? k f) (← b.set? k f)
  | .combine op a b => do return op.apply (foldCase f (← a.set? k f)) (foldCase f (← b.set? k f))

end Written

end Rewind
