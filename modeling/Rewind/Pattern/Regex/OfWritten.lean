import Rewind.Pattern.Regex
import Rewind.Pattern.Regex.Class

/-! The expression that a written pattern stands for. Flags change from left to right, across the
bars of an alternation too; a group ends the changes made inside it. -/
namespace Rewind.Written

def Assertion.look (f : Flags) : Assertion → Look
  | lineStart => if !f.multiLine then .textStart else if f.crlf then .crlfLineStart else .lineStart
  | lineEnd => if !f.multiLine then .textEnd else if f.crlf then .crlfLineEnd else .lineEnd
  | textStart => .textStart
  | textEnd => .textEnd
  | boundary => .boundary f.unicode
  | notBoundary => .notBoundary f.unicode
  | wordStart => .wordStart f.unicode
  | wordEnd => .wordEnd f.unicode
  | wordStartHalf => .wordStartHalf f.unicode
  | wordEndHalf => .wordEndHalf f.unicode

def dotSet (f : Flags) : CharSet :=
  if f.dotMatchesNewLine then .all
  else if f.crlf then CharSet.compl ⟨[(0xA, 0xA), (0xD, 0xD)]⟩
  else CharSet.compl ⟨[(0xA, 0xA)]⟩

/-- The alternatives of a written pattern, and the flags in force after it. A part of an
alternation apart, there is one alternative. -/
def alternatives? (k : Unicode.Catalog) : Written → Flags → Option (List Regex × Flags)
  | .empty, f => some ([.empty], f)
  | .directive c, f => some ([.empty], f.change c)
  | .literal l, f =>
    if l.isLoneByte f then none
    else some ([.ofSet (!f.unicode) (foldCase f (.singleton l.char))], f)
  | .dot, f => if f.unicode then some ([.ofSet false (dotSet f)], f) else none
  | .assertion a, f => some ([.look (a.look f)], f)
  | .named c, f => do return ([.ofSet (!f.unicode) (← c.set? k f)], f)
  | .bracketed negated body, f => do
    let s ← negate? f negated (foldCase f (← body.set? k f))
    return ([.ofSet (!f.unicode) s], f)
  | .group index name sub, f => do
    let (rs, _) ← sub.alternatives? k f
    return ([.group index name (.ofChoices rs)], f)
  | .flagged c sub, f => do
    let (rs, _) ← sub.alternatives? k (f.change c)
    return ([.ofChoices rs], f)
  | .rep min max greedy sub, f => do
    let (rs, f) ← sub.alternatives? k f
    return ([.repetition min max (greedy != f.swapGreed) (.ofChoices rs)], f)
  | .seq a b, f => do
    let (rs, f) ← a.alternatives? k f
    let (ss, f) ← b.alternatives? k f
    return ([.sequence [.ofChoices rs, .ofChoices ss]], f)
  | .alt a b, f => do
    let (rs, f) ← a.alternatives? k f
    let (ss, f) ← b.alternatives? k f
    return (rs ++ ss, f)

def regex? (k : Unicode.Catalog) (w : Written) (f : Flags) : Option Regex :=
  (w.alternatives? k f).map fun p => Regex.ofChoices p.1

end Rewind.Written
