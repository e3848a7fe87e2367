import Mathlib.Data.List.TakeWhile
import Rewind.Proofs.Pattern.Modes
import Rewind.Script.Lexeme

/-! The numbers and identifiers of scripts. Beside each pattern stand the texts that it is for and the
function that takes the longest of them from the start of a text. What the pattern finds is what the
function takes (`lexes_number`, `lexes_ident`), and no longer text of the kind is there
(`longestOf_numeral`, `longestOf_identifier`). -/
namespace Rewind

namespace Script

open Program (Modes bare)

def isDigit (c : Char) : Bool := Unicode.decimalDigit.contains c

def isWordChar (c : Char) : Bool := Unicode.word.contains c

def isHead (c : Char) : Bool := c.isAlpha || c = '_'

/-- Digits, and digits after a point. -/
inductive Numeral : List Char → Prop where
  | whole {ds : List Char} (hne : ds ≠ []) (hds : ∀ c ∈ ds, isDigit c = true) : Numeral ds
  | decimal {ds es : List Char} (hne : ds ≠ []) (hds : ∀ c ∈ ds, isDigit c = true)
      (hne' : es ≠ []) (hes : ∀ c ∈ es, isDigit c = true) : Numeral (ds ++ '.' :: es)

/-- A letter of ASCII or `_`, then word characters. -/
inductive Identifier : List Char → Prop where
  | intro {c : Char} {cs : List Char} (hc : isHead c = true)
      (hcs : ∀ d ∈ cs, isWordChar d = true) : Identifier (c :: cs)

/-- A point and the digits behind it, if there are any. -/
def fraction : List Char → List Char
  | [] => []
  | c :: cs => if c = '.' ∧ cs.takeWhile isDigit ≠ [] then c :: cs.takeWhile isDigit else []

/-- The numeral at the start of a text, empty if there is none. -/
def numeral (cs : List Char) : List Char :=
  if cs.takeWhile isDigit = [] then []
  else cs.takeWhile isDigit ++ fraction (cs.dropWhile isDigit)

/-- The identifier at the start of a text, empty if there is none. -/
def identifier : List Char → List Char
  | [] => []
  | c :: cs => if isHead c then c :: cs.takeWhile isWordChar else []

/-! ## Classes of characters -/

theorem headSet_contains (c : Char) : headSet.contains c = isHead c := by
  have hupper : c.isUpper = decide (c.val ≥ 'A'.val ∧ c.val ≤ 'Z'.val) := rfl
  have hlower : c.isLower = (decide (c.val ≥ 'a'.val) && decide (c.val ≤ 'z'.val)) := rfl
  have hletter : c.isAlpha = (c.isUpper || c.isLower) := rfl
  have hunderscore : c = '_' ↔ c.toNat = 95 := by
    rw [← Char.toNat_inj]
    rfl
  rw [Bool.eq_iff_iff]
  simp [CharSet.contains, CharSet.holds, headSet, isHead, hletter, hupper, hlower, hunderscore,
    UInt32.le_iff_toNat_le]
  omega

theorem isDigit_point : isDigit '.' = false := by decide

/-- No identifier begins with a digit. -/
theorem isDigit_of_isHead {c : Char} (h : isHead c = true) : isDigit c = false := by
  have hascii : ∀ n, n < 128 → Unicode.decimalDigit.holds n = true → n ≤ 57 := by decide +kernel
  rw [← headSet_contains] at h
  simp [CharSet.contains, CharSet.holds, headSet] at h
  cases hd : isDigit c with
  | false => rfl
  | true =>
    have := hascii c.toNat (by omega) hd
    omega

/-! ## What the patterns find -/

inductive NumberMode where
  | start
  | whole
  | point
  | decimals

def numberModes : Modes number.program NumberMode where
  entry
    | .start => 0
    | .whole => 1
    | .point => 4
    | .decimals => 5
  accepts
    | .start | .point => false
    | .whole | .decimals => true
  next
    | .start, c => if isDigit c then some .whole else none
    | .whole, c => if isDigit c then some .whole else if c = '.' then some .point else none
    | .point, c | .decimals, c => if isDigit c then some .decimals else none
  better_eq m holds offset best := by cases m <;> rfl
  advance_eq m holds offset c := by
    have hdigit : ∀ {i k}, number.program.state? i = some (.take Unicode.decimalDigit k) →
        number.program.step? c (bare i) = if isDigit c then some (bare k) else none := by
      intro i k hi
      simp only [Program.step?, bare, hi]
      rfl
    have hpoint : number.program.step? c (bare 3) = if c = '.' then some (bare 4) else none := by
      show (if (CharSet.singleton '.').contains c = true then some (bare 4) else none) = _
      simp only [CharSet.contains_singleton, decide_eq_true_iff]
    cases m with
    | start =>
      show [bare 0].filterMap (number.program.step? c) = _
      simp only [List.filterMap_cons, List.filterMap_nil, hdigit (i := 0) (k := 1) rfl]
      by_cases hc : isDigit c = true <;> simp [hc]
    | whole =>
      show [bare 0, bare 3].filterMap (number.program.step? c) = _
      simp only [List.filterMap_cons, List.filterMap_nil, hdigit (i := 0) (k := 1) rfl, hpoint]
      by_cases hp : c = '.'
      · simp [hp, isDigit_point]
      · by_cases hc : isDigit c = true <;> simp [hc, hp]
    | point | decimals =>
      show [bare 4].filterMap (number.program.step? c) = _
      simp only [List.filterMap_cons, List.filterMap_nil, hdigit (i := 4) (k := 5) rfl]
      by_cases hc : isDigit c = true <;> simp [hc]

inductive IdentMode where
  | start
  | behindHead
  | behindWord

def identModes : Modes ident.program IdentMode where
  entry
    | .start => 0
    | .behindHead => 1
    | .behindWord => 3
  accepts
    | .start => false
    | .behindHead | .behindWord => true
  next
    | .start, c => if isHead c then some .behindHead else none
    | .behindHead, c | .behindWord, c => if isWordChar c then some .behindWord else none
  better_eq m holds offset best := by cases m <;> rfl
  advance_eq m holds offset c := by
    have hhead : ident.program.step? c (bare 0) = if isHead c then some (bare 1) else none := by
      rw [← headSet_contains]
      rfl
    have hword : ident.program.step? c (bare 2) = if isWordChar c then some (bare 3) else none := rfl
    cases m with
    | start =>
      show [bare 0].filterMap (ident.program.step? c) = _
      simp only [List.filterMap_cons, List.filterMap_nil, hhead]
      by_cases hc : isHead c = true <;> simp [hc]
    | behindHead | behindWord =>
      show [bare 2].filterMap (ident.program.step? c) = _
      simp only [List.filterMap_cons, List.filterMap_nil, hword]
      by_cases hc : isWordChar c = true <;> simp [hc]

theorem longest_decimals (cs : List Char) :
    numberModes.longest .decimals cs = some (cs.takeWhile isDigit) :=
  numberModes.longest_loop rfl (fun _ => rfl) cs

theorem longest_point (cs : List Char) : numberModes.longest .point cs =
    if cs.takeWhile isDigit = [] then none else some (cs.takeWhile isDigit) := by
  cases cs with
  | nil => rfl
  | cons c cs =>
    have hnext : numberModes.next .point c = if isDigit c then some .decimals else none := rfl
    rw [numberModes.longest_cons rfl, hnext, List.takeWhile_cons]
    by_cases hc : isDigit c = true
    · simp [hc, longest_decimals]
    · simp [hc]

theorem longest_whole (cs : List Char) : numberModes.longest .whole cs =
    some (cs.takeWhile isDigit ++ fraction (cs.dropWhile isDigit)) := by
  induction cs with
  | nil => rfl
  | cons c cs ih =>
    have hpoint := longest_point cs
    rw [Modes.longest, List.takeWhile_cons, List.dropWhile_cons]
    by_cases hc : isDigit c = true
    · simp only [numberModes, if_pos hc, Option.bind_some] at ih ⊢
      rw [ih]
      rfl
    · by_cases hp : c = '.'
      · simp only [numberModes, if_neg hc, if_pos hp, Option.bind_some] at hpoint ⊢
        rw [hpoint]
        by_cases hds : cs.takeWhile isDigit = []
        · simp [fraction, hds]
        · simp [fraction, hds, hp]
      · simp [numberModes, fraction, hc, hp]

theorem longest_start (cs : List Char) : numberModes.longest .start cs =
    if numeral cs = [] then none else some (numeral cs) := by
  cases cs with
  | nil => rfl
  | cons c cs =>
    have hnext : numberModes.next .start c = if isDigit c then some .whole else none := rfl
    rw [numberModes.longest_cons rfl, hnext, numeral, List.takeWhile_cons, List.dropWhile_cons]
    by_cases hc : isDigit c = true
    · simp [hc, longest_whole]
    · simp [hc]

theorem longest_behindWord (cs : List Char) :
    identModes.longest .behindWord cs = some (cs.takeWhile isWordChar) :=
  identModes.longest_loop rfl (fun _ => rfl) cs

theorem longest_behindHead (cs : List Char) :
    identModes.longest .behindHead cs = some (cs.takeWhile isWordChar) := by
  cases cs with
  | nil => rfl
  | cons c cs => exact longest_behindWord (c :: cs)

theorem longest_identStart (cs : List Char) : identModes.longest .start cs =
    if identifier cs = [] then none else some (identifier cs) := by
  cases cs with
  | nil => rfl
  | cons c cs =>
    have hnext : identModes.next .start c = if isHead c then some .behindHead else none := rfl
    rw [identModes.longest_cons rfl, hnext, identifier]
    by_cases hc : isHead c = true
    · simp [hc, longest_behindHead]
    · simp [hc]

/-! ## The longest text of a kind -/

/-- A function takes the longest text of a kind from the start of a text, if there is one. -/
structure LongestOf (kind : List Char → Prop) (lex : List Char → List Char) : Prop where
  begins : ∀ cs, lex cs <+: cs
  mem : ∀ cs, lex cs ≠ [] → kind (lex cs)
  ne_nil : ∀ x, kind x → x ≠ []
  longest : ∀ cs x, kind x → x <+: cs → x.length ≤ (lex cs).length

/-- A text goes on with units that make it a longer text of the same kind. -/
def Continues (kind : List Char → Prop) (x after : List Char) : Prop :=
  ∃ q, q ≠ [] ∧ q <+: after ∧ kind (x ++ q)

namespace LongestOf

variable {kind : List Char → Prop} {lex : List Char → List Char}

theorem append_drop (h : LongestOf kind lex) (cs : List Char) :
    lex cs ++ cs.drop (lex cs).length = cs :=
  List.prefix_iff_eq_append.mp (h.begins cs)

/-- What is left does not go on with what was taken. -/
theorem not_continues (h : LongestOf kind lex) (cs : List Char) :
    ¬Continues kind (lex cs) (cs.drop (lex cs).length) := by
  rintro ⟨q, hq, hafter, hkind⟩
  have hpre := (List.prefix_append_right_inj (lex cs)).mpr hafter
  rw [h.append_drop] at hpre
  have hlen := h.longest cs _ hkind hpre
  have := List.length_pos_iff.mpr hq
  rw [List.length_append] at hlen
  omega

/-- A text of the kind is taken whole, and no more, if what is behind it does not go on with it. -/
theorem lex_append (h : LongestOf kind lex) {x after : List Char} (hx : kind x)
    (hend : ¬Continues kind x after) : lex (x ++ after) = x := by
  have hle := h.longest (x ++ after) x hx (List.prefix_append ..)
  have hne : lex (x ++ after) ≠ [] := fun hnil => by
    have := List.length_pos_iff.mpr (h.ne_nil x hx)
    rw [hnil] at hle
    exact absurd hle (Nat.not_le_of_lt this)
  obtain ⟨q, hq⟩ := List.prefix_of_prefix_length_le (List.prefix_append x after)
    (h.begins (x ++ after)) hle
  have hafter : q <+: after := by
    rw [← List.prefix_append_right_inj x, hq]
    exact h.begins _
  by_cases hnil : q = []
  · rw [← hq, hnil, List.append_nil]
  · refine absurd ⟨q, hnil, hafter, ?_⟩ hend
    rw [hq]
    exact h.mem _ hne

end LongestOf

theorem prefix_takeWhile {p : Char → Bool} {x cs : List Char} (hx : ∀ c ∈ x, p c = true)
    (hpre : x <+: cs) : x <+: cs.takeWhile p := by
  obtain ⟨t, rfl⟩ := hpre
  rw [List.takeWhile_append_of_pos hx]
  exact List.prefix_append ..

theorem fraction_begins (cs : List Char) : fraction cs <+: cs := by
  cases cs with
  | nil => exact List.nil_prefix
  | cons c cs =>
    rw [fraction]
    split
    · exact List.cons_prefix_cons.mpr ⟨rfl, List.takeWhile_prefix _⟩
    · exact List.nil_prefix

theorem numeral_begins (cs : List Char) : numeral cs <+: cs := by
  unfold numeral
  split
  · exact List.nil_prefix
  · have h := (List.prefix_append_right_inj (cs.takeWhile isDigit)).mpr
      (fraction_begins (cs.dropWhile isDigit))
    rwa [List.takeWhile_append_dropWhile] at h

theorem numeral_mem {cs : List Char} (h : numeral cs ≠ []) : Numeral (numeral cs) := by
  have hds : ∀ c ∈ cs.takeWhile isDigit, isDigit c = true := fun _ => List.mem_takeWhile_imp
  unfold numeral at h ⊢
  split at h
  · exact absurd rfl h
  · next hne =>
    rw [if_neg hne]
    cases hrest : cs.dropWhile isDigit with
    | nil =>
      rw [fraction, List.append_nil]
      exact .whole hne hds
    | cons c es =>
      rw [fraction]
      split
      · next hpoint =>
        rw [hpoint.1]
        exact .decimal hne hds hpoint.2 fun _ => List.mem_takeWhile_imp
      · rw [List.append_nil]
        exact .whole hne hds

/-- Digits with a point behind them are all the digits there. -/
theorem takeWhile_point {ds t : List Char} (hds : ∀ c ∈ ds, isDigit c = true) :
    (ds ++ '.' :: t).takeWhile isDigit = ds ∧ (ds ++ '.' :: t).dropWhile isDigit = '.' :: t := by
  rw [List.takeWhile_append_of_pos hds, List.dropWhile_append_of_pos hds,
    List.takeWhile_cons_of_neg (by simp [isDigit_point]),
    List.dropWhile_cons_of_neg (by simp [isDigit_point]), List.append_nil]
  exact ⟨rfl, rfl⟩

theorem numeral_longest {cs x : List Char} (hx : Numeral x) (hpre : x <+: cs) :
    x.length ≤ (numeral cs).length := by
  cases hx with
  | whole hne hds =>
    have hdigits := prefix_takeWhile hds hpre
    have hsome : cs.takeWhile isDigit ≠ [] := fun hnil => hne (List.prefix_nil.mp (hnil ▸ hdigits))
    rw [numeral, if_neg hsome, List.length_append]
    exact Nat.le_add_right_of_le hdigits.length_le
  | @decimal ds es hne hds hne' hes =>
    obtain ⟨t, rfl⟩ := hpre
    have hdecimals := prefix_takeWhile hes (List.prefix_append es t)
    have hsome : (es ++ t).takeWhile isDigit ≠ [] :=
      fun hnil => hne' (List.prefix_nil.mp (hnil ▸ hdecimals))
    have hlen := hdecimals.length_le
    rw [List.append_assoc, List.cons_append, numeral, (takeWhile_point hds).1,
      (takeWhile_point hds).2, if_neg hne, fraction, if_pos ⟨rfl, hsome⟩]
    simp only [List.length_append, List.length_cons]
    omega

theorem longestOf_numeral : LongestOf Numeral numeral where
  begins := numeral_begins
  mem _ := numeral_mem
  ne_nil x hx := by
    cases hx with
    | whole hne hds => exact hne
    | decimal hne hds hne' hes => exact List.append_ne_nil_of_left_ne_nil hne _
  longest _ _ := numeral_longest

theorem identifier_begins (cs : List Char) : identifier cs <+: cs := by
  cases cs with
  | nil => exact List.nil_prefix
  | cons c cs =>
    rw [identifier]
    split
    · exact List.cons_prefix_cons.mpr ⟨rfl, List.takeWhile_prefix _⟩
    · exact List.nil_prefix

theorem longestOf_identifier : LongestOf Identifier identifier where
  begins := identifier_begins
  mem cs h := by
    cases cs with
    | nil => exact absurd rfl h
    | cons c cs =>
      rw [identifier] at h ⊢
      split at h
      · next hc =>
        rw [if_pos hc]
        exact .intro hc fun _ => List.mem_takeWhile_imp
      · exact absurd rfl h
  ne_nil x hx := by
    cases hx with
    | intro hc hcs => exact List.cons_ne_nil _ _
  longest cs x hx hpre := by
    cases hx with
    | @intro c ds hc hds =>
      obtain ⟨t, rfl⟩ := hpre
      rw [List.cons_append, identifier, if_pos hc]
      exact Nat.succ_le_succ (prefix_takeWhile hds (List.prefix_append ds t)).length_le

/-! ## What the patterns take -/

theorem lexes_number : number.Lexes numeral :=
  numberModes.lexes (m := .start) rfl numeral_begins longest_start

theorem lexes_ident : ident.Lexes identifier :=
  identModes.lexes (m := .start) rfl identifier_begins longest_identStart

/-! ## Telling numerals from identifiers -/

theorem Numeral.exists_cons {x : List Char} (h : Numeral x) :
    ∃ c cs, x = c :: cs ∧ isDigit c = true := by
  cases h with
  | whole hne hds =>
    obtain ⟨c, cs, rfl⟩ := List.exists_cons_of_ne_nil hne
    exact ⟨c, cs, rfl, hds c List.mem_cons_self⟩
  | decimal hne hds =>
    obtain ⟨c, cs, rfl⟩ := List.exists_cons_of_ne_nil hne
    exact ⟨c, _, rfl, hds c List.mem_cons_self⟩

theorem Identifier.exists_cons {x : List Char} (h : Identifier x) :
    ∃ c cs, x = c :: cs ∧ isHead c = true := by
  cases h with
  | @intro c cs hc hcs => exact ⟨c, cs, rfl, hc⟩

/-- A numeral and an identifier differ in their first units. -/
theorem Numeral.append_ne {x y : List Char} (hx : Numeral x) (hy : Identifier y) (q r : List Char) :
    x ++ q ≠ y ++ r := by
  obtain ⟨c, cs, rfl, hc⟩ := hx.exists_cons
  obtain ⟨d, ds, rfl, hd⟩ := hy.exists_cons
  intro heq
  obtain rfl : c = d := List.head_eq_of_cons_eq heq
  rw [isDigit_of_isHead hd] at hc
  exact Bool.false_ne_true hc

theorem Numeral.mem {x : List Char} (h : Numeral x) : ∀ c ∈ x, isDigit c = true ∨ c = '.' := by
  cases h with
  | whole hne hds => exact fun c hc => .inl (hds c hc)
  | decimal hne hds hne' hes =>
    intro c hc
    rcases List.mem_append.mp hc with hc | hc
    · exact .inl (hds c hc)
    · rcases List.mem_cons.mp hc with hc | hc
      · exact .inr hc
      · exact .inl (hes c hc)

theorem Identifier.mem {x : List Char} (h : Identifier x) :
    ∀ c ∈ x, isHead c = true ∨ isWordChar c = true := by
  cases h with
  | intro hc hcs =>
    intro d hd
    rcases List.mem_cons.mp hd with rfl | hd
    · exact .inl hc
    · exact .inr (hcs d hd)

end Script

end Rewind
