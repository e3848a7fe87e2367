import Rewind.Proofs.Script.Reading

/-! The grammar of expressions, and that its reading accepts exactly what it derives. A derivation
says which lexeme its text ends with, since text behind that lexeme can make it longer. Soundness
follows the functions that read (`sound_readWithin`), completeness the derivations
(`Derives.reaches`). -/
namespace Rewind.Script

/-! ## The grammar -/

def Blanks (cs : List Char) : Prop := ∀ c ∈ cs, isBlank c = true

/-- Two tiers of operators. Those of products bind tighter. -/
inductive Tier where
  | product
  | sum

/-- A single operand, or a chain of operands with operators of one tier between them. -/
inductive Level where
  | atom
  | chain (t : Tier)

namespace Tier

def operators : Tier → Char × Char
  | product => ('*', '/')
  | sum => ('+', '-')

/-- Between the operators of sums stand products. -/
def operand : Tier → Level
  | product => .atom
  | sum => .chain product

def Has (t : Tier) (op : Char) : Prop := op = t.operators.1 ∨ op = t.operators.2

end Tier

/-- A text is an expression of a level, and ends with a number or an identifier unless it ends with a
parenthesis. Operators of one tier group to the left, and parentheses leave no trace. -/
inductive Derives : Level → List Char → Expr → Option (List Char) → Prop where
  | number {x : List Char} (hx : Numeral x) : Derives .atom x (.number x) (some x)
  | name {x : List Char} (hx : Identifier x) : Derives .atom x (.name x) (some x)
  | parens {before w after : List Char} {e : Expr} {last : Option (List Char)}
      (hbefore : Blanks before) (hw : Derives (.chain .sum) w e last) (hafter : Blanks after) :
      Derives .atom ('(' :: (before ++ (w ++ (after ++ [')'])))) e none
  | one {t : Tier} {w : List Char} {e : Expr} {last : Option (List Char)}
      (hw : Derives t.operand w e last) : Derives (.chain t) w e last
  | more {t : Tier} {v before after w : List Char} {a b : Expr} {op : Char}
      {last last' : Option (List Char)} (hv : Derives (.chain t) v a last)
      (hbefore : Blanks before) (hop : t.Has op) (hafter : Blanks after)
      (hw : Derives t.operand w b last') :
      Derives (.chain t) (v ++ (before ++ op :: (after ++ w))) (.apply op a b) last'

/-- What comes next makes the last number or identifier a longer one. -/
def Extends (last : Option (List Char)) (rest : List Char) : Prop :=
  ∃ x ∈ last, Continues Numeral x rest ∨ Continues Identifier x rest

/-- The operators that would be taken behind an expression of a level. -/
def Level.operators : Level → List Char
  | atom => []
  | chain .product => ['*', '/']
  | chain .sum => ['+', '-', '*', '/']

/-- The first unit that is not a blank is none of these. -/
def NoneNext (ops rest : List Char) : Prop := ∀ c ∈ (rest.dropWhile isBlank).head?, c ∉ ops

/-! ## Blanks and operators -/

theorem Tier.mem_operators (t : Tier) (c : Char) :
    c ∈ (Level.chain t).operators ↔ t.Has c ∨ c ∈ t.operand.operators := by
  cases t <;> simp [Level.operators, Tier.operand, Tier.Has, Tier.operators, or_assoc]

/-- The operators of the tiers are different. -/
theorem Tier.Has.not_mem {t : Tier} {op : Char} (h : t.Has op) : op ∉ t.operand.operators := by
  cases t with
  | product => exact List.not_mem_nil
  | sum => rcases h with rfl | rfl <;> decide

theorem skip_append {bs : List Char} (hbs : Blanks bs) (cs : List Char) :
    skip (bs ++ cs) = skip cs :=
  List.dropWhile_append_of_pos hbs

theorem skip_cons {c : Char} (hc : isBlank c = false) (cs : List Char) :
    skip (c :: cs) = c :: cs :=
  List.dropWhile_cons_of_neg (by simp [hc])

theorem blanks_takeWhile (cs : List Char) : Blanks (cs.takeWhile isBlank) :=
  fun _ => List.mem_takeWhile_imp

theorem takeWhile_append_skip (cs : List Char) : cs.takeWhile isBlank ++ skip cs = cs :=
  List.takeWhile_append_dropWhile

theorem readUnit_eq_some {c d : Char} {cs ds : List Char} :
    readUnit c cs = some (d, ds) ↔ d = c ∧ cs = c :: ds := by
  cases cs with
  | nil => simp [readUnit]
  | cons e es =>
    rw [readUnit]
    split
    · next h =>
      subst h
      simp [eq_comm]
    · next h =>
      simp [h]

theorem readOperator_cons (t : Tier) (c : Char) (cs : List Char) [Decidable (t.Has c)] :
    readOperator t.operators (c :: cs) = if t.Has c then some (c, cs) else none := by
  simp only [readOperator, readUnit, Tier.Has]
  by_cases h1 : c = t.operators.1
  · simp [h1]
  · by_cases h2 : c = t.operators.2
    · have hne : t.operators.2 ≠ t.operators.1 := fun he => h1 (h2.trans he)
      simp [h2, hne]
    · simp [h1, h2]

theorem readOperator_eq_some {t : Tier} {op : Char} {cs ds : List Char} :
    readOperator t.operators cs = some (op, ds) ↔ t.Has op ∧ cs = op :: ds := by
  classical
  cases cs with
  | nil => simp [readOperator, readUnit]
  | cons c cs =>
    rw [readOperator_cons]
    constructor
    · intro h
      obtain ⟨hc, heq⟩ := Option.ite_none_right_eq_some.mp h
      cases heq
      exact ⟨hc, rfl⟩
    · rintro ⟨hop, heq⟩
      cases heq
      exact if_pos hop

theorem readOperator_eq_none {t : Tier} {cs : List Char} :
    readOperator t.operators cs = none ↔ ∀ c ∈ cs.head?, ¬t.Has c := by
  classical
  cases cs with
  | nil => simp [readOperator, readUnit]
  | cons c cs => simp [readOperator_cons]

/-- Behind a chain comes neither an operator of its tier nor one that binds tighter. -/
theorem noneNext_chain {t : Tier} {rest : List Char} :
    NoneNext (Level.chain t).operators rest ↔
      NoneNext t.operand.operators rest ∧ readOperator t.operators (skip rest) = none := by
  rw [readOperator_eq_none]
  simp only [NoneNext, Tier.mem_operators, skip]
  constructor
  · intro h
    exact ⟨fun c hc hmem => h c hc (.inr hmem), fun c hc hop => h c hc (.inl hop)⟩
  · rintro ⟨hin, hop⟩ c hc (h | h)
    · exact hop c hc h
    · exact hin c hc h

/-! ## Soundness -/

/-- What a reading accepts is an expression of a level, and all of it that is there. -/
def Sound (l : Level) (read : Reading Expr) : Prop :=
  ∀ cs e rest, read cs = some (e, rest) → ∃ w last, w ++ rest = cs ∧ Derives l w e last ∧
    ¬Extends last rest ∧ NoneNext l.operators rest

theorem sound_readFold {t : Tier} {read : Reading Expr} (h : Sound t.operand read) (n : Nat)
    {v cs rest : List Char} {a e : Expr} {last : Option (List Char)}
    (hread : readFold t.operators read n a cs = some (e, rest)) (hv : Derives (.chain t) v a last)
    (hend : ¬Extends last cs) (hnext : NoneNext t.operand.operators cs) :
    ∃ w last', w ++ rest = cs ∧ Derives (.chain t) (v ++ w) e last' ∧ ¬Extends last' rest ∧
      NoneNext (Level.chain t).operators rest := by
  induction n generalizing v cs a last with
  | zero => cases hread
  | succ n ih =>
    rw [readFold] at hread
    cases hop : readOperator t.operators (skip cs) with
    | none =>
      rw [hop] at hread
      cases hread
      refine ⟨[], last, rfl, ?_, hend, noneNext_chain.mpr ⟨hnext, hop⟩⟩
      rwa [List.append_nil]
    | some x =>
      obtain ⟨op, ds⟩ := x
      rw [hop] at hread
      obtain ⟨⟨b, es⟩, hb, hfold⟩ := Option.bind_eq_some_iff.mp hread
      obtain ⟨hhas, hcs⟩ := readOperator_eq_some.mp hop
      -- what was read so far, the operator and its operand are the left side of what is read next
      obtain ⟨w, last', hw, hderives, hend', hnext'⟩ := h _ _ _ hb
      obtain ⟨w', last'', hw', hderives', hend'', hnext''⟩ := ih hfold
        (.more hv (blanks_takeWhile cs) hhas (blanks_takeWhile ds) hderives) hend' hnext'
      refine ⟨cs.takeWhile isBlank ++ op :: (ds.takeWhile isBlank ++ w) ++ w', last'', ?_, ?_,
        hend'', hnext''⟩
      · calc
          cs.takeWhile isBlank ++ op :: (ds.takeWhile isBlank ++ w) ++ w' ++ rest
          _ = cs.takeWhile isBlank ++ op :: (ds.takeWhile isBlank ++ (w ++ (w' ++ rest))) := by simp
          _ = cs := by
            rw [hw', hw, takeWhile_append_skip, ← hcs, takeWhile_append_skip]
      · rwa [← List.append_assoc]

theorem sound_readOperands {t : Tier} {read : Reading Expr} (h : Sound t.operand read) :
    Sound (.chain t) (readOperands t.operators read) := by
  intro cs e rest hread
  obtain ⟨⟨a, ds⟩, ha, hfold⟩ := Option.bind_eq_some_iff.mp hread
  obtain ⟨v, last, hv, hderives, hend, hnext⟩ := h _ _ _ ha
  obtain ⟨w, last', hw, hderives', hend', hnext'⟩ :=
    sound_readFold h _ hfold (.one hderives) hend hnext
  refine ⟨v ++ w, last', ?_, hderives', hend', hnext'⟩
  rw [List.append_assoc, hw, hv]

theorem sound_readParens {inner : Reading Expr} (h : Sound (.chain .sum) inner)
    {cs rest : List Char} {e : Expr} (hread : readParens inner cs = some (e, rest)) :
    ∃ w, w ++ rest = '(' :: cs ∧ Derives .atom w e none := by
  obtain ⟨⟨a, ds⟩, ha, hclose⟩ := Option.bind_eq_some_iff.mp hread
  obtain ⟨⟨c, es⟩, hc, heq⟩ := Option.map_eq_some_iff.mp hclose
  obtain ⟨-, hds⟩ := readUnit_eq_some.mp hc
  obtain ⟨w, last, hw, hderives, -, -⟩ := h _ _ _ ha
  cases heq
  refine ⟨_, ?_, .parens (blanks_takeWhile cs) hderives (blanks_takeWhile ds)⟩
  calc
    '(' :: (cs.takeWhile isBlank ++ (w ++ (ds.takeWhile isBlank ++ [')']))) ++ es
    _ = '(' :: (cs.takeWhile isBlank ++ (w ++ (ds.takeWhile isBlank ++ ')' :: es))) := by simp
    _ = '(' :: cs := by
      rw [← hds, takeWhile_append_skip, hw, takeWhile_append_skip]

theorem noneNext_nil (rest : List Char) : NoneNext [] rest := fun _ _ => List.not_mem_nil

theorem sound_readName : Sound .atom readName := by
  intro cs e rest hread
  rw [readName] at hread
  split at hread
  · cases hread
  · next hne =>
    cases hread
    have hname := longestOf_identifier.mem cs hne
    refine ⟨_, _, longestOf_identifier.append_drop cs, .name hname, ?_, noneNext_nil _⟩
    rintro ⟨x, hx, hnum | hident⟩
    · cases hx
      obtain ⟨q, -, -, hq⟩ := hnum
      exact hq.append_ne hname [] q (List.append_nil _)
    · cases hx
      exact longestOf_identifier.not_continues cs hident

theorem sound_readAtom {inner : Reading Expr} (h : Sound (.chain .sum) inner) :
    Sound .atom (readAtom inner) := by
  intro cs e rest hread
  rw [readAtom] at hread
  split at hread
  · cases hopen : readUnit '(' cs with
    | none =>
      rw [hopen] at hread
      exact sound_readName cs e rest hread
    | some x =>
      obtain ⟨c, ds⟩ := x
      rw [hopen] at hread
      obtain ⟨-, rfl⟩ := readUnit_eq_some.mp hopen
      obtain ⟨w, hw, hderives⟩ := sound_readParens h hread
      refine ⟨w, none, hw, hderives, ?_, noneNext_nil _⟩
      rintro ⟨x, hx, -⟩
      cases hx
  · next hne =>
    cases hread
    have hnumber := longestOf_numeral.mem cs hne
    refine ⟨_, _, longestOf_numeral.append_drop cs, .number hnumber, ?_, noneNext_nil _⟩
    rintro ⟨x, hx, hnum | hident⟩
    · cases hx
      exact longestOf_numeral.not_continues cs hnum
    · cases hx
      obtain ⟨q, -, -, hq⟩ := hident
      exact hnumber.append_ne hq q [] (List.append_nil _).symm

theorem sound_readWithin (n : Nat) : Sound (.chain .sum) (readWithin n) := by
  induction n with
  | zero => nofun
  | succ n ih =>
    exact sound_readOperands (t := .sum) (sound_readOperands (t := .product) (sound_readAtom ih))

/-! ## Completeness -/

/-- Units that belong to no number and no identifier. -/
def Separates (c : Char) : Prop :=
  isDigit c = false ∧ c ≠ '.' ∧ isHead c = false ∧ isWordChar c = false

theorem Separates.not_mem_numeral {c : Char} {x : List Char} (hc : Separates c) (hx : Numeral x) :
    c ∉ x := by
  obtain ⟨hdigit, hpoint, -, -⟩ := hc
  intro hmem
  rcases hx.mem c hmem with h | h
  · simp [hdigit] at h
  · exact hpoint h

theorem Separates.not_mem_identifier {c : Char} {x : List Char} (hc : Separates c)
    (hx : Identifier x) : c ∉ x := by
  obtain ⟨-, -, hhead, hword⟩ := hc
  intro hmem
  rcases hx.mem c hmem with h | h
  · simp [hhead] at h
  · simp [hword] at h

theorem Separates.not_extends {c : Char} (hc : Separates c) (last : Option (List Char))
    (cs : List Char) : ¬Extends last (c :: cs) := by
  have hin : ∀ {x q : List Char}, q ≠ [] → q <+: c :: cs → c ∈ x ++ q := by
    intro x q hq hpre
    obtain ⟨d, ds, rfl⟩ := List.exists_cons_of_ne_nil hq
    obtain rfl : d = c := (List.cons_prefix_cons.mp hpre).1
    exact List.mem_append_right x List.mem_cons_self
  rintro ⟨x, -, ⟨q, hq, hpre, hnum⟩ | ⟨q, hq, hpre, hident⟩⟩
  · exact hc.not_mem_numeral hnum (hin hq hpre)
  · exact hc.not_mem_identifier hident (hin hq hpre)

theorem separates_of_mem : ∀ c ∈ [' ', '\t', '\n', '(', ')', '+', '-', '*', '/'], Separates c := by
  have hall : ([' ', '\t', '\n', '(', ')', '+', '-', '*', '/'].all fun c =>
      !isDigit c && c != '.' && !isHead c && !isWordChar c) = true := by decide +kernel
  simpa [Separates, and_assoc] using hall

theorem separates_blank {c : Char} (hc : isBlank c = true) : Separates c := by
  apply separates_of_mem
  simp only [isBlank, Bool.or_eq_true, decide_eq_true_iff] at hc
  rcases hc with rfl | rfl <;> simp

theorem Tier.Has.separates {t : Tier} {op : Char} (h : t.Has op) : Separates op := by
  apply separates_of_mem
  cases t with
  | product => rcases h with rfl | rfl <;> simp [Tier.operators]
  | sum => rcases h with rfl | rfl <;> simp [Tier.operators]

/-- Blanks and then such a unit make no lexeme longer. -/
theorem Separates.not_extends_blanks {c : Char} (hc : Separates c) {bs : List Char}
    (hbs : Blanks bs) (last : Option (List Char)) (cs : List Char) :
    ¬Extends last (bs ++ c :: cs) := by
  cases bs with
  | nil => exact hc.not_extends last cs
  | cons b bs => exact (separates_blank (hbs b List.mem_cons_self)).not_extends last _

/-- An expression begins with no blank. -/
theorem Derives.exists_cons {l : Level} {w : List Char} {e : Expr} {last : Option (List Char)}
    (h : Derives l w e last) : ∃ c cs, w = c :: cs ∧ isBlank c = false := by
  induction h with
  | number hx =>
    obtain ⟨c, cs, rfl, hc⟩ := hx.exists_cons
    refine ⟨c, cs, rfl, Bool.eq_false_iff.mpr fun hb => ?_⟩
    simp [(separates_blank hb).1] at hc
  | name hx =>
    obtain ⟨c, cs, rfl, hc⟩ := hx.exists_cons
    refine ⟨c, cs, rfl, Bool.eq_false_iff.mpr fun hb => ?_⟩
    simp [(separates_blank hb).2.2.1] at hc
  | parens hbefore hw hafter ih => exact ⟨_, _, rfl, by decide⟩
  | one hw ih => exact ih
  | more hv hbefore hop hafter hw ihv ihw =>
    obtain ⟨c, cs, rfl, hc⟩ := ihv
    exact ⟨c, _, rfl, hc⟩

/-- Blanks before an expression are skipped, and no more. -/
theorem Derives.skip_eq {l : Level} {w : List Char} {e : Expr} {last : Option (List Char)}
    (h : Derives l w e last) {bs : List Char} (hbs : Blanks bs) (cs : List Char) :
    skip (bs ++ (w ++ cs)) = w ++ cs := by
  obtain ⟨c, ds, rfl, hc⟩ := h.exists_cons
  rw [skip_append hbs, List.cons_append, skip_cons hc]

/-- The reading of a level, given that of expressions in parentheses. -/
def Level.read (inner : Reading Expr) : Level → Reading Expr
  | atom => readAtom inner
  | chain .product => readProduct inner
  | chain .sum => readSum inner

theorem read_chain (inner : Reading Expr) (t : Tier) :
    (Level.chain t).read inner = readOperands t.operators (t.operand.read inner) := by
  cases t <;> rfl

/-- Where the reading of a level gets to behind a text: it has an operand, or the operands so far in a
chain, which it goes on with if it can. -/
def Reaches (inner : Reading Expr) : Level → List Char → Expr → List Char → Prop
  | .atom, w, e, rest => readAtom inner (w ++ rest) = some (e, rest)
  | .chain t, w, e, rest => ∃ k, rest.length < k ∧
      (Level.chain t).read inner (w ++ rest) =
        readFold t.operators (t.operand.read inner) k e rest

/-- It stops there if no operator comes next. -/
theorem Reaches.read_eq {inner : Reading Expr} {l : Level} {w rest : List Char} {e : Expr}
    (h : Reaches inner l w e rest) (hnext : NoneNext l.operators rest) :
    l.read inner (w ++ rest) = some (e, rest) := by
  cases l with
  | atom => exact h
  | chain t =>
    obtain ⟨k, hk, hread⟩ := h
    obtain ⟨n, rfl⟩ := Nat.exists_eq_add_of_lt hk
    rw [hread, readFold, (noneNext_chain.mp hnext).2]

/-- The operators that belong to the operands of a level. -/
def Level.inside : Level → List Char
  | atom => []
  | chain t => t.operand.operators

theorem noneNext_inside {l : Level} {rest : List Char} (h : NoneNext l.operators rest) :
    NoneNext l.inside rest := by
  cases l with
  | atom => exact h
  | chain t => exact (noneNext_chain.mp h).1

/-- A text of blanks and then a unit that is neither a blank nor one of some operators. -/
theorem noneNext_append {ops bs : List Char} {c : Char} (hbs : Blanks bs)
    (hc : isBlank c = false) (hmem : c ∉ ops) (cs : List Char) : NoneNext ops (bs ++ c :: cs) := by
  intro d hd
  have hskip : (bs ++ c :: cs).dropWhile isBlank = c :: cs :=
    (skip_append hbs _).trans (skip_cons hc cs)
  rw [hskip] at hd
  obtain rfl : c = d := Option.some.inj hd
  exact hmem

theorem Tier.Has.not_blank {t : Tier} {op : Char} (h : t.Has op) : isBlank op = false := by
  cases t with
  | product => rcases h with rfl | rfl <;> decide
  | sum => rcases h with rfl | rfl <;> decide

theorem numeral_of_not_digit {c : Char} (hc : isDigit c = false) (cs : List Char) :
    numeral (c :: cs) = [] := by
  simp [numeral, hc]

/-- The reading of a level goes over what the level derives. Numbers and identifiers are read whole
since nothing behind them goes on with them, and the count of parentheses bounds the nesting. -/
theorem Derives.reaches {l : Level} {w : List Char} {e : Expr} {last : Option (List Char)}
    (h : Derives l w e last) {n : Nat} (hn : w.length ≤ n) {rest : List Char}
    (hend : ¬Extends last rest) (hnext : NoneNext l.inside rest) :
    Reaches (readWithin n) l w e rest := by
  induction h generalizing n rest with
  | @number x hx =>
    have hnum : numeral (x ++ rest) = x :=
      longestOf_numeral.lex_append hx fun hc => hend ⟨x, rfl, .inl hc⟩
    show readAtom _ _ = _
    rw [readAtom, hnum, if_neg (longestOf_numeral.ne_nil x hx), List.drop_left]
  | @name x hx =>
    have hident : identifier (x ++ rest) = x :=
      longestOf_identifier.lex_append hx fun hc => hend ⟨x, rfl, .inr hc⟩
    have hne := longestOf_identifier.ne_nil x hx
    obtain ⟨c, cs, rfl, hc⟩ := hx.exists_cons
    have hopen : c ≠ '(' := by
      rintro rfl
      exact absurd hc (by decide)
    show readAtom _ _ = _
    rw [readAtom, List.cons_append, if_pos (numeral_of_not_digit (isDigit_of_isHead hc) _), readUnit,
      if_neg hopen]
    show readName ((c :: cs) ++ rest) = _
    rw [readName, hident, if_neg hne, List.drop_left]
  | @parens before w after e last hbefore hw hafter ih =>
    -- two units for the parentheses pay for one level of nesting
    simp only [List.length_cons, List.length_append] at hn
    obtain ⟨m, rfl⟩ : ∃ m, n = m + 1 := ⟨n - 1, by omega⟩
    have hin : readWithin (m + 1) (w ++ (after ++ ')' :: rest)) =
        some (e, after ++ ')' :: rest) := by
      refine (ih (n := m) (by omega) ?_ ?_).read_eq ?_
      · exact (separates_of_mem ')' (by simp)).not_extends_blanks hafter last rest
      · exact noneNext_append hafter (by decide) (by decide) rest
      · exact noneNext_append hafter (by decide) (by decide) rest
    have htext : '(' :: (before ++ (w ++ (after ++ [')']))) ++ rest =
        '(' :: (before ++ (w ++ (after ++ ')' :: rest))) := by simp
    show readAtom _ _ = _
    rw [htext, readAtom, if_pos (numeral_of_not_digit (by decide) _)]
    show readParens _ (before ++ (w ++ (after ++ ')' :: rest))) = _
    rw [readParens, hw.skip_eq hbefore, hin, Option.bind_some, skip_append hafter,
      skip_cons (by decide)]
    rfl
  | @one t w e last hw ih =>
    have hread := (ih hn hend (noneNext_inside hnext)).read_eq hnext
    refine ⟨rest.length + 1, Nat.lt_succ_self _, ?_⟩
    rw [read_chain, readOperands, hread]
    rfl
  | @more t v before after w a b op last last' hv hbefore hop hafter hw ihv ihw =>
    -- the chain on the left gets to its end with the operator still to come, and goes on with it
    simp only [List.length_cons, List.length_append] at hn
    have hbehind : NoneNext (Level.chain t).inside (before ++ op :: (after ++ (w ++ rest))) :=
      noneNext_append hbefore hop.not_blank hop.not_mem _
    obtain ⟨k, hk, hread⟩ := ihv (n := n) (by omega)
      (hop.separates.not_extends_blanks hbefore last _) hbehind
    have hoperand := (ihw (n := n) (by omega) hend (noneNext_inside hnext)).read_eq hnext
    simp only [List.length_cons, List.length_append] at hk
    obtain ⟨m, rfl⟩ : ∃ m, k = m + 1 := ⟨k - 1, by omega⟩
    have hop' : readOperator t.operators (skip (before ++ op :: (after ++ (w ++ rest)))) =
        some (op, after ++ (w ++ rest)) := by
      rw [skip_append hbefore, skip_cons hop.not_blank]
      exact readOperator_eq_some.mpr ⟨hop, rfl⟩
    have htext : v ++ (before ++ op :: (after ++ w)) ++ rest =
        v ++ (before ++ op :: (after ++ (w ++ rest))) := by simp
    refine ⟨m, by omega, ?_⟩
    rw [htext, hread, readFold, hop']
    simp only [hw.skip_eq hafter, hoperand, Option.bind_some]

/-! ## Expressions -/

/-- An accepted text is an expression, with no operator behind it that could be taken. -/
theorem sound_readExpression : Sound (.chain .sum) readExpression :=
  fun cs e rest hread => sound_readWithin _ cs e rest hread

/-- An expression is accepted, up to where it ends. -/
theorem Derives.readExpression_eq {w rest : List Char} {e : Expr} {last : Option (List Char)}
    (h : Derives (.chain .sum) w e last) (hend : ¬Extends last rest)
    (hnext : NoneNext (Level.chain .sum).operators rest) :
    readExpression (w ++ rest) = some (e, rest) :=
  (h.reaches (n := (w ++ rest).length) (by simp) hend (noneNext_inside hnext)).read_eq hnext

/-- The grammar is unambiguous: a text is no more than one expression. -/
theorem Derives.unique {w : List Char} {a b : Expr} {last last' : Option (List Char)}
    (ha : Derives (.chain .sum) w a last) (hb : Derives (.chain .sum) w b last') : a = b := by
  have hend : ∀ last : Option (List Char), ¬Extends last [] := by
    rintro last ⟨x, -, ⟨q, hq, hpre, -⟩ | ⟨q, hq, hpre, -⟩⟩
    · exact hq (List.prefix_nil.mp hpre)
    · exact hq (List.prefix_nil.mp hpre)
  have hnext : NoneNext (Level.chain .sum).operators [] := nofun
  have heq := (ha.readExpression_eq (hend last) hnext).symm.trans
    (hb.readExpression_eq (hend last') hnext)
  simpa using heq

end Rewind.Script
