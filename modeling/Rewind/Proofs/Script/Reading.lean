import Rewind.Proofs.Scanner.Reading
import Rewind.Proofs.Script.Lexeme
import Rewind.Script.Expr

/-! Expressions as readings. Beside each rule of expressions stands the function of the text to come
that it is. Where the rule goes back to a checkpoint the function keeps the text that it had. -/
namespace Rewind.Script

open Scanner (Tracks Agree)

def skip (cs : List Char) : List Char := cs.dropWhile isBlank

def readOperator (ops : Char × Char) : Reading Char := fun cs =>
  readUnit ops.1 cs <|> readUnit ops.2 cs

def readFold (ops : Char × Char) (operand : Reading Expr) : Nat → Expr → Reading Expr
  | 0, _, _ => none
  | n + 1, a, cs =>
    match readOperator ops (skip cs) with
    | some (op, ds) =>
      (operand (skip ds)).bind fun x => readFold ops operand n (.apply op a x.1) x.2
    | none => some (a, cs)

def readOperands (ops : Char × Char) (operand : Reading Expr) : Reading Expr := fun cs =>
  (operand cs).bind fun x => readFold ops operand (x.2.length + 1) x.1 x.2

def readParens (inner : Reading Expr) : Reading Expr := fun cs =>
  (inner (skip cs)).bind fun x => (readUnit ')' (skip x.2)).map fun y => (x.1, y.2)

def readName : Reading Expr := fun cs =>
  if identifier cs = [] then none
  else some (.name (identifier cs), cs.drop (identifier cs).length)

def readAtom (inner : Reading Expr) : Reading Expr := fun cs =>
  if numeral cs = [] then
    match readUnit '(' cs with
    | some x => readParens inner x.2
    | none => readName cs
  else some (.number (numeral cs), cs.drop (numeral cs).length)

def readProduct (inner : Reading Expr) : Reading Expr := readOperands ('*', '/') (readAtom inner)

def readSum (inner : Reading Expr) : Reading Expr := readOperands ('+', '-') (readProduct inner)

def readWithin : Nat → Reading Expr
  | 0 => fun _ => none
  | n + 1 => readSum (readWithin n)

def readExpression : Reading Expr := fun cs => readWithin (cs.length + 1) cs

/-! ## Rules are readings -/

variable {s : Scanner} {p : Position}

/-- Blanks are gone over and counted. -/
theorem agree_skipBlanks_count (hs : Tracks s p) :
    ∃ q, Agree (skipBlanks s) (some (p.rest.takeWhile isBlank).length, q) ∧ p.Keeps q ∧
      q.rest = skip p.rest := by
  have hrun := hs.takeWhile isBlank
  refine ⟨(p.takeWhile isBlank).2, ⟨?_, hrun.2⟩, .takeWhile p _, p.rest_takeWhile _⟩
  show some (s.takeWhile isBlank).1.length = _
  rw [hrun.1]
  rfl

theorem agree_skipBlanks (hs : Tracks s p) :
    ∃ n q, Agree (skipBlanks s) (some n, q) ∧ p.Keeps q ∧ q.rest = skip p.rest :=
  ⟨_, agree_skipBlanks_count hs⟩

theorem tries_operator (ops : Char × Char) : (operator ops).Tries (readOperator ops) :=
  (Rule.tries_accept ops.1).orElse (Rule.tries_accept ops.2)

theorem reads_foldOperators (ops : Char × Char) {operand : Rule Expr} {read : Reading Expr}
    (h : operand.Reads read) (n : Nat) (a : Expr) :
    (foldOperators ops operand n a).Reads (readFold ops read n a) := by
  induction n generalizing a with
  | zero => exact Rule.reads_failure
  | succ n ih =>
    intro s p hs
    apply Rule.yields_get
    obtain ⟨k, q, hskip, hpq, hq⟩ := agree_skipBlanks hs
    refine Rule.bind_of_some hskip hpq fun t ht => ?_
    obtain ⟨r, hqr, hop, hr⟩ := tries_operator ops t q ht
    refine Rule.scan_bind hop hqr fun u hu => ?_
    rw [readFold, ← hq]
    cases hread : readOperator ops q.rest with
    | none =>
      -- the blanks were gone over in vain, and the checkpoint before them brings them back
      rw [hread] at hr
      refine Rule.bind_of_some (b := ()) (s := u) ?_ (.goTo r p.index) fun v hv => ?_
      · rw [hs.here_eq]
        exact Rule.agree_rewind hs hu (hpq.trans hqr)
      · refine Rule.yields_of_some ⟨rfl, hv⟩ (.refl _) ?_
        show r.text.drop p.index = p.rest
        rw [hqr.text_eq, hpq.text_eq]
        rfl
    | some x =>
      rw [hread] at hr
      obtain ⟨l, r', hskip', hrr', hr'⟩ := agree_skipBlanks hu
      refine Rule.bind_of_some hskip' hrr' fun v hv => ?_
      have hrest : r'.rest = skip x.2 := hr'.trans (congrArg skip hr)
      simp only [← hrest]
      exact (h v r' hv).bind fun b w r'' hw _ _ => ih _ w r'' hw

theorem reads_operands (ops : Char × Char) {operand : Rule Expr} {read : Reading Expr}
    (h : operand.Reads read) : (operands ops operand).Reads (readOperands ops read) := by
  intro s p hs
  refine (h s p hs).bind fun a t q ht _ _ => ?_
  apply Rule.yields_get
  rw [ht.remaining_eq]
  exact reads_foldOperators ops h _ a t q ht

theorem reads_parens {inner : Rule Expr} {read : Reading Expr} (h : inner.Reads read) :
    (do
      let _ ← skipBlanks
      let e ← inner
      let _ ← skipBlanks
      let _ ← symbol ')'
      return e : Rule Expr).Reads (readParens read) := by
  intro s p hs
  obtain ⟨k, q, hskip, hpq, hq⟩ := agree_skipBlanks hs
  refine Rule.bind_of_some hskip hpq fun t ht => ?_
  rw [readParens, ← hq]
  refine (h t q ht).bind fun e u r hu _ _ => ?_
  obtain ⟨l, r', hskip', hrr', hr'⟩ := agree_skipBlanks hu
  refine Rule.bind_of_some hskip' hrr' fun v hv => ?_
  rw [← hr', Option.map_eq_bind]
  exact ((Rule.tries_accept ')').reads v r' hv).bind fun _ w r'' hw _ _ => Rule.yields_pure hw e

theorem reads_name : (do return .name (← lexeme ident).matched : Rule Expr).Reads readName := by
  intro s p hs
  have haccept := hs.acceptPattern ident
  rw [readName]
  rcases p.acceptPattern_of_lexes hs lexes_ident with ⟨hnil, hnone⟩ | ⟨hne, m, hm, hsome⟩
  · rw [if_pos hnil]
    exact Rule.bind_of_none (hnone ▸ haccept) (.refl p)
  · rw [if_neg hne]
    refine Rule.bind_of_some (hsome ▸ haccept) (.pass p _) fun t ht => ?_
    rw [hm, ← p.rest_pass]
    exact Rule.yields_pure ht _

theorem reads_atom {inner : Rule Expr} {read : Reading Expr} (h : inner.Reads read) :
    (atom inner).Reads (readAtom read) := by
  intro s p hs
  have haccept := hs.acceptPattern number
  rw [readAtom]
  rcases p.acceptPattern_of_lexes hs lexes_number with ⟨hnil, hnone⟩ | ⟨hne, m, hm, hsome⟩
  · rw [if_pos hnil]
    refine Rule.scan_bind (hnone ▸ haccept) (.refl p) fun t ht => ?_
    obtain ⟨q, hpq, hopen, hq⟩ := Rule.tries_accept '(' t p ht
    refine Rule.scan_bind hopen hpq fun u hu => ?_
    cases hread : readUnit '(' p.rest with
    | none =>
      rw [hread] at hq
      have hrest : q.rest = p.rest := hq
      rw [← hrest]
      exact reads_name u q hu
    | some x =>
      rw [hread] at hq
      have hrest : q.rest = x.2 := hq
      simp only [← hrest]
      exact reads_parens h u q hu
  · rw [if_neg hne]
    refine Rule.scan_bind (hsome ▸ haccept) (.pass p _) fun t ht => ?_
    rw [← p.rest_pass]
    exact hm ▸ Rule.yields_pure ht (Expr.number m.matched)

theorem reads_within (n : Nat) : (expressionWithin n).Reads (readWithin n) := by
  induction n with
  | zero => exact Rule.reads_failure
  | succ n ih => exact reads_operands _ (reads_operands _ (reads_atom ih))

theorem reads_expression : expression.Reads readExpression := by
  intro s p hs
  apply Rule.yields_get
  rw [hs.remaining_eq]
  exact reads_within _ s p hs

end Rewind.Script
