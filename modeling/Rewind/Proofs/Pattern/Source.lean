import Mathlib.Data.List.TakeWhile
import Rewind.Pattern.Regex.OfWritten
import Rewind.Pattern.Written.Parser

/-! Sources of classes inside of larger sources. What is read up to a closing bracket, or as one escape,
does not depend on what follows, so a source that is one class can be put in a group and repeated
(`parse?_starOf`). A reading of a text is followed here step by step beside the reading of the same text
with more behind it. -/
namespace Rewind.Written

open Parse

/-- What stands behind a class in its repetition: the end of a group and a star. -/
def behind : List Char := [')', '*']

def starOf (source : List Char) : List Char := ['(', '?', ':'] ++ (source ++ behind)

namespace Parse

variable {α β : Type}

/-- A reading in which blanks count, with the given text to come. -/
def plainly (cs : List Char) (groups : Nat) (names : List (List Char)) : Reading :=
  ⟨cs, false, groups, names⟩

/-- Where one parse accepts a text, the other does so when more stands behind it. Both give the same
outcome, leave off at the same place and change nothing else. -/
def Extends (m m' : Parse α) (cs : List Char) : Prop :=
  ∀ g ns a r, m (plainly cs g ns) = some (a, r) → ∃ ds, r = plainly ds g ns ∧
    m' (plainly (cs ++ behind) g ns) = some (a, plainly (ds ++ behind) g ns)

theorem bind_apply (m : Parse α) (k : α → Parse β) (r : Reading) :
    (m >>= k) r = (m r).bind fun x => k x.1 x.2 := rfl

theorem bind_eq_some {m : Parse α} {k : α → Parse β} {r : Reading} {x : β × Reading}
    (h : (m >>= k) r = some x) : ∃ a r', m r = some (a, r') ∧ k a r' = some x := by
  obtain ⟨⟨a, r'⟩, hm, hk⟩ := Option.bind_eq_some_iff.mp h
  exact ⟨a, r', hm, hk⟩

namespace Extends

variable {m m' : Parse α} {cs : List Char}

theorem pure (a : α) (cs : List Char) : Extends (Pure.pure a) (Pure.pure a) cs := by
  intro g ns b r h
  cases h
  exact ⟨cs, rfl, rfl⟩

theorem failure (m' : Parse α) (cs : List Char) : Extends Alternative.failure m' cs := by
  intro g ns b r h
  cases h

theorem lift (a : Option α) (cs : List Char) :
    Extends (liftM a : Parse α) (liftM a : Parse α) cs := by
  cases a with
  | none => exact failure _ cs
  | some a => exact pure a cs

theorem bind {k k' : α → Parse β} (hm : Extends m m' cs)
    (hk : ∀ a ds g ns, m (plainly cs g ns) = some (a, plainly ds g ns) → Extends (k a) (k' a) ds) :
    Extends (m >>= k) (m' >>= k') cs := by
  intro g ns b r h
  obtain ⟨a, r', hfirst, hthen⟩ := bind_eq_some h
  obtain ⟨ds, rfl, hfirst'⟩ := hm g ns a r' hfirst
  obtain ⟨es, rfl, hthen'⟩ := hk a ds g ns hfirst g ns b r hthen
  refine ⟨es, rfl, ?_⟩
  rw [bind_apply, hfirst']
  exact hthen'

theorem ite {p : Prop} [Decidable p] {n n' : Parse α} (h : Extends m m' cs) (h' : Extends n n' cs) :
    Extends (if p then m else n) (if p then m' else n') cs := by
  split
  · exact h
  · exact h'

/-! The rules for single steps. A parse that looks at a character is known to be at one after it. -/

theorem failure_bind {k : α → Parse β} (m' : Parse β) (cs : List Char) :
    Extends ((Alternative.failure : Parse α) >>= k) m' cs := by
  intro g ns b r h
  cases h

theorem peek {k k' : Char → Parse β} (h : ∀ c ds, cs = c :: ds → Extends (k c) (k' c) cs) :
    Extends (Parse.peek >>= k) (Parse.peek >>= k') cs := by
  cases cs with
  | nil =>
    intro g ns b r hnil
    cases hnil
  | cons c ds => exact h c ds rfl

theorem bump {k k' : Unit → Parse β} {c : Char} (h : Extends (k ()) (k' ()) cs) :
    Extends (Parse.bump >>= k) (Parse.bump >>= k') (c :: cs) := h

theorem advance {k k' : Unit → Parse β} {c : Char} (h : Extends (k ()) (k' ()) cs) :
    Extends (Parse.advance >>= k) (Parse.advance >>= k') (c :: cs) := h

theorem advanceTo {k k' : Char → Parse β}
    (h : ∀ a c ds, cs = a :: c :: ds → Extends (k c) (k' c) (c :: ds)) :
    Extends (Parse.advanceTo >>= k) (Parse.advanceTo >>= k') cs := by
  match cs, h with
  | [], _ | [_], _ =>
    intro g ns b r hnil
    cases hnil
  | a :: c :: ds, h => exact h a c ds rfl

theorem skipBlanks {k k' : Unit → Parse β} (h : Extends (k ()) (k' ()) cs) :
    Extends (Parse.skipBlanks >>= k) (Parse.skipBlanks >>= k') cs := h

theorem rest {k k' : List Char → Parse β} (h : Extends (k cs) (k' (cs ++ behind)) cs) :
    Extends (Parse.rest >>= k) (Parse.rest >>= k') cs := h

theorem setRest {k k' : Unit → Parse β} (ds : List Char) (h : Extends (k ()) (k' ()) ds) :
    Extends (Parse.setRest ds >>= k) (Parse.setRest (ds ++ behind) >>= k') cs := h

end Extends

/-! ## Runs of characters -/

theorem takeRun_eq (p : Char → Bool) {n : Nat} {cs : List Char} (hn : cs.length ≤ n) (g : Nat)
    (ns : List (List Char)) : takeRun p n (plainly cs g ns) =
      some (cs.takeWhile p, plainly (cs.dropWhile p) g ns) := by
  induction n generalizing cs with
  | zero =>
    obtain rfl := List.eq_nil_of_length_eq_zero (Nat.le_zero.mp hn)
    rfl
  | succ n ih =>
    cases cs with
    | nil => rfl
    | cons c cs =>
      show (if p c = true then _ else _ : Parse (List Char)) (plainly (c :: cs) g ns) = _
      rw [List.takeWhile_cons, List.dropWhile_cons]
      by_cases hc : p c = true
      · rw [if_pos hc, if_pos hc, if_pos hc]
        show (takeRun p n (plainly cs g ns)).bind _ = _
        rw [ih (Nat.le_of_succ_le_succ hn)]
        rfl
      · rw [if_neg hc, if_neg hc, if_neg hc]
        rfl

theorem takeWhile_append_behind {p : Char → Bool} (hp : p ')' = false) (cs : List Char) :
    (cs ++ behind).takeWhile p = cs.takeWhile p ∧
      (cs ++ behind).dropWhile p = cs.dropWhile p ++ behind := by
  induction cs with
  | nil => simp [behind, hp]
  | cons c cs ih =>
    by_cases hc : p c = true
    · simp [hc, ih]
    · simp [hc]

/-- A run of characters ends where the group does, if not before. -/
theorem Extends.takeRun {p : Char → Bool} (hp : p ')' = false) {k k' : List Char → Parse β}
    {cs : List Char} (h : Extends (k (cs.takeWhile p)) (k' (cs.takeWhile p)) (cs.dropWhile p)) :
    Extends (do k (← takeRun p (← Parse.rest).length)) (do k' (← takeRun p (← Parse.rest).length))
      cs := by
  intro g ns a r hrun
  have htake : ∀ ds : List Char, Written.takeRun p ds.length (plainly ds g ns) = _ :=
    fun ds => takeRun_eq p (Nat.le_refl _) g ns
  change (Written.takeRun p cs.length (plainly cs g ns)).bind _ = _ at hrun
  show ∃ ds, _ ∧ (Written.takeRun p (cs ++ behind).length (plainly (cs ++ behind) g ns)).bind _ = _
  rw [htake, (takeWhile_append_behind hp cs).1, (takeWhile_append_behind hp cs).2]
  rw [htake] at hrun
  exact h g ns a r hrun

/-! ## Escapes -/

theorem extends_hexDigits (n : Nat) (cs : List Char) :
    Extends (hexDigits n) (hexDigits n) cs := by
  induction n generalizing cs with
  | zero => exact .pure [] cs
  | succ n ih =>
    refine .peek fun c ds hcs => ?_
    subst hcs
    split
    · exact .failure_bind _ _
    · exact .advance (.bind (ih ds) fun _ _ _ _ _ => .pure _ _)

theorem extends_bracedHex (cs : List Char) : Extends bracedHex bracedHex cs := by
  refine .takeRun (by decide) (.peek fun c ds hcs => ?_)
  split
  · exact .failure_bind _ _
  · rw [hcs]
    exact .advance (.pure _ ds)

theorem extends_hexLiteral (letter : Char) (cs : List Char) :
    Extends (hexLiteral letter) (hexLiteral letter) cs := by
  refine .advanceTo fun a c ds hcs => ?_
  split
  · refine .advance (.bind (extends_bracedHex ds) fun hex es _ _ _ => ?_)
    split
    · exact .failure_bind _ _
    · exact .bind (.lift _ es) fun _ _ _ _ _ => .pure _ _
  · exact .bind (extends_hexDigits _ _) fun _ _ _ _ _ => .bind (.lift _ _) fun _ _ _ _ _ => .pure _ _

/-- The name of a property ends at its brace, which is left. -/
theorem propertyName_rest {n : Nat} {cs name : List Char} {g : Nat} {ns : List (List Char)}
    {r : Reading} (h : propertyName n (plainly cs g ns) = some (name, r)) :
    ∃ ds, r = plainly ('\x7d' :: ds) g ns := by
  induction n generalizing cs name r with
  | zero => cases h
  | succ n ih =>
    match cs with
    | [] | [_] => cases h
    | _ :: c :: cs =>
      change (if c = '\x7d' then _ else _ : Parse (List Char)) (plainly (c :: cs) g ns) = _ at h
      split at h
      · next hc =>
        cases h
        exact ⟨cs, by rw [hc]⟩
      · obtain ⟨name', r', hname, hout⟩ := bind_eq_some h
        cases hout
        exact ih hname

theorem extends_propertyName {n n' : Nat} (hn : n ≤ n') (cs : List Char) :
    Extends (propertyName n) (propertyName n') cs := by
  induction n generalizing n' cs with
  | zero => exact .failure _ cs
  | succ n ih =>
    obtain ⟨m, rfl⟩ : ∃ m, n' = m + 1 := ⟨n' - 1, by omega⟩
    refine .advanceTo fun a c ds hcs => ?_
    split
    · exact .pure [] _
    · exact .bind (ih (Nat.le_of_succ_le_succ hn) _) fun _ _ _ _ _ => .pure _ _

theorem extends_propertyClass (negated : Bool) (cs : List Char) :
    Extends (propertyClass negated) (propertyClass negated) cs := by
  refine .advanceTo fun a c ds hcs => ?_
  split
  · refine .rest (.bind (extends_propertyName (by simp) _) fun name es g ns hname => ?_)
    obtain ⟨fs, hes⟩ := propertyName_rest hname
    obtain rfl : es = '\x7d' :: fs := congrArg Reading.rest hes
    exact .bump (.pure _ fs)
  · split
    · exact .failure _ _
    · exact .advance (.pure _ ds)

/-- Without a brace a word boundary has no name. -/
theorem boundary_of_head?_ne {r : Reading} (h : r.rest.head? ≠ some '\x7b') :
    boundary r = some (.boundary, r) := by
  obtain ⟨cs, verbose, g, ns⟩ := r
  unfold boundary
  rw [bind_apply]
  show Option.bind (some (cs, _)) _ = _
  rw [Option.bind_some]
  dsimp only
  split
  · exact absurd rfl h
  · rfl

theorem extends_boundary (cs : List Char) : Extends boundary boundary cs := by
  by_cases hhead : cs.head? = some '\x7b'
  · obtain ⟨ds, rfl⟩ := List.head?_eq_some_iff.mp hhead
    refine .rest (.advanceTo fun a c es hcs => ?_)
    cases hcs
    split
    · refine .takeRun (by decide) (.peek fun d fs hes => ?_)
      split
      · exact .failure_bind _ _
      · rw [hes]
        exact .bump (.lift _ fs)
    · exact .setRest ('\x7b' :: c :: es) (.pure _ _)
  · have hhead' : (cs ++ behind).head? ≠ some '\x7b' := by
      cases cs with
      | nil => decide
      | cons c cs => exact hhead
    intro g ns a r h
    rw [boundary_of_head?_ne hhead] at h
    cases h
    exact ⟨cs, rfl, boundary_of_head?_ne hhead'⟩

theorem extends_letterEscape (c : Char) (cs : List Char) :
    Extends (letterEscape c) (letterEscape c) cs := by
  unfold letterEscape
  split
  all_goals first
    | exact .pure _ cs
    | exact .failure _ cs
    | exact .bind (extends_boundary cs) fun _ _ _ _ _ => .pure _ _

theorem extends_escapeSequence (c : Char) (cs : List Char) :
    Extends escapeSequence escapeSequence (c :: cs) := by
  refine .bump (.peek fun d ds hcs => ?_)
  split
  · exact .bind (extends_hexLiteral d cs) fun _ _ _ _ _ => .pure _ _
  · split
    · exact .bind (extends_propertyClass _ cs) fun _ _ _ _ _ => .pure _ _
    · rw [hcs]
      refine .bump ?_
      split
      · exact .pure _ ds
      · exact extends_letterEscape d ds

/-! ## Bracketed classes -/

theorem extends_classPrimitive (cs : List Char) :
    Extends classPrimitive classPrimitive cs := by
  refine .peek fun c ds hcs => ?_
  rw [hcs]
  split
  · exact extends_escapeSequence c ds
  · exact .bump (.pure _ ds)

theorem Extends.peekSecond {k k' : Option Char → Parse β} {c : Char} {cs : List Char}
    (h : Extends (k cs.head?) (k' (cs ++ behind).head?) (c :: cs)) :
    Extends (Written.peekSecond >>= k) (Written.peekSecond >>= k') (c :: cs) := h

/-- A range from its dash on. -/
def rangeBehind (first : Primitive) : Parse ClassBody := do
  let _ ← advanceTo
  let last ← classPrimitive
  let lo ← first.toLiteral?
  let hi ← last.toLiteral?
  if lo.char ≤ hi.char then return ClassBody.range lo hi else failure

theorem extends_rangeBehind (first : Primitive) (cs : List Char) :
    Extends (rangeBehind first) (rangeBehind first) cs := by
  refine .advanceTo fun _ _ _ _ => .bind (extends_classPrimitive _) fun last _ _ _ _ => ?_
  refine .bind (.lift _ _) fun lo _ _ _ _ => .bind (.lift _ _) fun hi _ _ _ _ => ?_
  split
  · exact .pure _ _
  · exact .failure _ _

/-- What stands behind a text would matter to a dash at its very end, but there no class ends. -/
theorem extends_classItem (cs : List Char) : Extends classItem classItem cs := by
  refine .bind (extends_classPrimitive cs) fun first ds _ _ _ => .skipBlanks ?_
  refine .peek fun c es hds => ?_
  rw [hds]
  refine .peekSecond ?_
  cases es with
  | nil =>
    by_cases hc : c = '-'
    · simp only [hc, behind]
      exact extends_rangeBehind first _
    · simp only [ne_eq, hc, not_false_eq_true, true_or, if_true]
      exact .lift _ _
  | cons d fs => exact .ite (.lift _ _) (extends_rangeBehind first _)

theorem extends_leadingDashes {n n' : Nat} (hn : n ≤ n') (cs : List Char) :
    Extends (leadingDashes n) (leadingDashes n') cs := by
  induction n generalizing n' cs with
  | zero => exact .failure _ cs
  | succ n ih =>
    obtain ⟨m, rfl⟩ : ∃ m, n' = m + 1 := ⟨n' - 1, by omega⟩
    refine .peek fun c ds hcs => ?_
    split
    · exact .advanceTo fun a d es _ =>
        .bind (ih (Nat.le_of_succ_le_succ hn) _) fun _ _ _ _ _ => .pure _ _
    · exact .pure [] cs

/-- The opening of a class behind its bracket and the sign that it is negated. -/
def openingItems (negated : Bool) : Parse (Bool × List ClassBody) := do
  let dashes ← leadingDashes (← Parse.rest).length
  if dashes.isEmpty && (← Parse.peek) = ']' then
    let _ ← Parse.advanceTo
    return (negated, [.literal ⟨']', false⟩])
  else return (negated, dashes)

theorem extends_openingItems (negated : Bool) (cs : List Char) :
    Extends (openingItems negated) (openingItems negated) cs := by
  refine .rest (.bind (extends_leadingDashes (by simp) cs) fun dashes ds _ _ _ => ?_)
  refine .peek fun c es hds => ?_
  split
  · exact .advanceTo fun _ _ _ _ => .pure _ _
  · exact .pure _ _

theorem extends_classOpening (cs : List Char) : Extends classOpening classOpening cs := by
  refine .advanceTo fun a c ds hcs => ?_
  dsimp only
  split
  · exact .advanceTo fun _ _ _ _ => extends_openingItems _ _
  · exact extends_openingItems _ _

theorem operator?_append (cs : List Char) :
    operator? (cs ++ behind) = (operator? cs).map fun x => (x.1, x.2 ++ behind) := by
  match cs with
  | [] => rfl
  | [c] =>
    have hone : operator? [c] = none := by
      unfold operator?
      split <;> simp_all
    have hmore : operator? [c, ')', '*'] = none := by
      unfold operator?
      split <;> simp_all
    rw [hone]
    exact hmore
  | c :: d :: cs =>
    show operator? (c :: d :: (cs ++ behind)) = _
    unfold operator?
    split
    · next heq => cases heq; rfl
    · next heq => cases heq; rfl
    · next heq => cases heq; rfl
    · next hinter hdiff hsymm =>
      split
      · next heq => cases heq; exact absurd rfl (hinter _)
      · next heq => cases heq; exact absurd rfl (hdiff _)
      · next heq => cases heq; exact absurd rfl (hsymm _)
      · rfl

/-- A named class from its name on. -/
def posixFrom? (negated : Bool) (cs : List Char) : Option (NamedClass × List Char) :=
  match cs.dropWhile (· ≠ ':') with
  | ':' :: ']' :: r =>
    (posixOfName? (String.ofList (cs.takeWhile (· ≠ ':')))).map fun p => (.posix p negated, r)
  | _ => none

theorem posixFrom?_append (negated : Bool) (cs : List Char) :
    posixFrom? negated (cs ++ behind) =
      (posixFrom? negated cs).map fun x => (x.1, x.2 ++ behind) := by
  unfold posixFrom?
  have hsplit := List.takeWhile_append_dropWhile (p := (· ≠ ':')) (l := cs)
  cases hrest : cs.dropWhile (· ≠ ':') with
  | nil =>
    rw [hrest, List.append_nil] at hsplit
    have hall : ∀ c ∈ cs, decide (c ≠ ':') = true := by
      rw [← hsplit]
      exact fun c => List.mem_takeWhile_imp
    rw [List.dropWhile_append_of_pos hall]
    rfl
  | cons d ds =>
    have hdrop : (cs ++ behind).dropWhile (· ≠ ':') = d :: (ds ++ behind) := by
      rw [List.dropWhile_append, hrest]
      rfl
    have htake : (cs ++ behind).takeWhile (· ≠ ':') = cs.takeWhile (· ≠ ':') := by
      refine List.append_cancel_right (?_ : _ ++ d :: (ds ++ behind) = _ ++ d :: (ds ++ behind))
      rw [← hdrop, List.takeWhile_append_dropWhile, hdrop, ← List.cons_append, ← List.append_assoc,
        ← hrest, hsplit]
    rw [hdrop, htake]
    cases ds with
    | nil =>
      have hnone : ∀ es : List Char, es.head? ≠ some ']' → (match d :: es with
        | ':' :: ']' :: r =>
          (posixOfName? (String.ofList (cs.takeWhile (· ≠ ':')))).map fun p =>
            (NamedClass.posix p negated, r)
        | _ => none) = none := by
        intro es hes
        split
        · next heq => cases heq; exact absurd rfl hes
        · rfl
      rw [hnone [] nofun]
      exact hnone _ (by decide)
    | cons e es =>
      show (match d :: e :: (es ++ behind) with
        | ':' :: ']' :: r => _
        | _ => _) = _
      split
      · next heq => cases heq; simp [Function.comp_def]
      · next h1 =>
        split
        · next heq => cases heq; exact absurd rfl (h1 _)
        · rfl

theorem posix?_cons (cs : List Char) : posix? ('[' :: ':' :: cs) =
    posixFrom? (cs.head? = some '^') (if cs.head? = some '^' then cs.tail else cs) := rfl

theorem posix?_eq_none {cs : List Char} (h : ¬['[', ':'] <+: cs) : posix? cs = none := by
  unfold posix?
  split
  · next ds => exact absurd ⟨ds, rfl⟩ h
  · rfl

theorem posix?_append (cs : List Char) :
    posix? (cs ++ behind) = (posix? cs).map fun x => (x.1, x.2 ++ behind) := by
  by_cases h : ['[', ':'] <+: cs
  · obtain ⟨ds, rfl⟩ := h
    show posix? ('[' :: ':' :: (ds ++ behind)) = (posix? ('[' :: ':' :: ds)).map _
    rw [posix?_cons, posix?_cons]
    cases ds with
    | nil => exact posixFrom?_append false []
    | cons d ds =>
      by_cases hd : d = '^'
      · simpa [hd] using posixFrom?_append true ds
      · simpa [hd] using posixFrom?_append false (d :: ds)
  · have h' : ¬['[', ':'] <+: cs ++ behind := by
      match cs, h with
      | [], _ => decide
      | [c], _ => simp [behind]
      | c :: d :: cs, h => simpa using h
    rw [posix?_eq_none h, posix?_eq_none h']
    rfl

theorem extends_classRest {n n' : Nat} (hn : n ≤ n') (before : Option (SetOp × ClassBody))
    (items : List ClassBody) (cs : List Char) :
    Extends (classRest n before items) (classRest n' before items) cs := by
  induction n generalizing n' before items cs with
  | zero => exact .failure _ cs
  | succ n ih =>
    obtain ⟨m, rfl⟩ : ∃ m, n' = m + 1 := ⟨n' - 1, by omega⟩
    have ih {before items cs} := ih (Nat.le_of_succ_le_succ hn) before items cs
    refine .skipBlanks (.rest ?_)
    rw [posix?_append, operator?_append]
    cases hposix : posix? cs with
    | some x => exact .setRest _ ih
    | none =>
      cases hoperator : operator? cs with
      | some x => exact .setRest _ ih
      | none =>
        simp only [Option.map_none]
        cases cs with
        | nil => exact .failure _ _
        | cons c ds =>
          simp only [List.cons_append]
          split
          · exact .failure _ _
          · next heq =>
            cases heq
            exact .bind (extends_classOpening _) fun _ _ _ _ _ => .bind ih fun _ _ _ _ _ => ih
          · next heq =>
            cases heq
            exact .setRest _ (.pure _ _)
          · next hnil hopen hclose =>
            split
            · next heq => exact absurd heq (List.cons_ne_nil _ _)
            · next heq =>
              cases heq
              exact absurd rfl (hopen _)
            · next heq =>
              cases heq
              exact absurd rfl (hclose _)
            · exact .bind (extends_classItem _) fun _ _ _ _ _ => ih

theorem extends_bracketedClass (cs : List Char) : Extends bracketedClass bracketedClass cs := by
  refine .bind (extends_classOpening cs) fun x ds _ _ _ => .rest ?_
  refine .bind (extends_classRest (by simp) _ _ _) fun _ _ _ _ _ => .pure _ _

theorem extends_primitive (cs : List Char) : Extends primitive primitive cs := by
  refine .peek fun c ds hcs => ?_
  rw [hcs]
  refine .ite (extends_escapeSequence c ds) (.bump ?_)
  split
  · exact .pure _ ds
  · exact .pure _ ds
  · exact .pure _ ds
  · exact .pure _ ds

/-! ## Expressions of one class -/

/-- A part of a concatenation that is no group and no repetition, from its first character on. -/
def item (c : Char) : Parse Written :=
  if c = '[' then bracketedClass else return (← primitive).toWritten

theorem extends_item (c : Char) (cs : List Char) : Extends (item c) (item c) cs :=
  .ite (extends_bracketedClass cs) (.bind (extends_primitive cs) fun _ _ _ _ _ => .pure _ _)

/-- Whether such a part can begin with the character. -/
def beginsItem (c : Char) : Bool := c ∉ ['|', '(', ')', '?', '*', '+', '\x7b']

end Parse

/-- A class, the dot or a character: what stands for one character of a set. -/
def isSingle : Written → Bool
  | literal _ => true
  | dot => true
  | named _ => true
  | bracketed _ _ => true
  | _ => false

theorem expression_item {c : Char} (hc : beginsItem c = true) (n : Nat) (alts items : List Written)
    (cs : List Char) (g : Nat) (ns : List (List Char)) :
    expression (n + 1) alts items (plainly (c :: cs) g ns) =
      (item c (plainly (c :: cs) g ns)).bind fun x => expression n alts (x.1 :: items) x.2 := by
  simp only [beginsItem, List.mem_cons, List.not_mem_nil, decide_eq_true_iff, not_or] at hc
  obtain ⟨hbar, hopen, hclose, hmark, hstar, hplus, hbrace, -⟩ := hc
  rw [expression, bind_apply]
  show Option.bind (some ((), plainly (c :: cs) g ns)) _ = _
  rw [Option.bind_some, bind_apply]
  show Option.bind (some (some c, plainly (c :: cs) g ns)) _ = _
  generalize hnext : some c = next
  rw [Option.bind_some]
  dsimp only
  split
  · cases hnext
  · exact absurd (Option.some.inj hnext) hclose
  · exact absurd (Option.some.inj hnext) hbar
  · exact absurd (Option.some.inj hnext) hopen
  · obtain rfl := Option.some.inj hnext
    rfl
  · next d _ _ _ hbracket =>
    obtain rfl := Option.some.inj hnext
    rw [if_neg (by simp [hmark, hstar, hplus, hbrace]), item, if_neg (by simpa using hbracket),
      bind_apply, bind_apply, Option.bind_assoc]
    rfl

/-- What is repeated is not single any more. -/
theorem exists_cons_of_repetition {mark : Char} {items rest : List Written} {r r' : Reading}
    (h : repetition mark items r = some (rest, r')) :
    ∃ i is, rest = i :: is ∧ isSingle i = false := by
  cases items with
  | nil => cases h
  | cons i is =>
    rw [repetition] at h
    dsimp only at h
    split at h
    · obtain ⟨_, _, hnone, -⟩ := bind_eq_some h
      cases hnone
    · obtain ⟨⟨min, max⟩, r₁, -, h⟩ := bind_eq_some h
      obtain ⟨isLazy, r₂, -, h⟩ := bind_eq_some h
      cases h
      exact ⟨_, is, rfl, rfl⟩

/-- What the reading of an expression does first: it ends, or it goes on with another alternative, with
something that is not single, or with an item. -/
theorem expression_cases {n : Nat} {alts items : List Written} {r r' : Reading} {w : Written}
    (h : expression (n + 1) alts items r = some (w, r')) :
    ∃ r₀, skipBlanks r = some ((), r₀) ∧
      (((∀ c ∈ r₀.rest.head?, c = ')') ∧ r' = r₀ ∧
          w = alternation (concat items.reverse :: alts).reverse) ∨
        (∃ r₁ a, expression n (a :: alts) [] r₁ = some (w, r')) ∨
        (∃ r₁ i rest, isSingle i = false ∧ expression n alts (i :: rest) r₁ = some (w, r')) ∨
        ∃ r₁ c cs i, r₀.rest = c :: cs ∧ beginsItem c = true ∧ item c r₀ = some (i, r₁) ∧
          expression n alts (i :: items) r₁ = some (w, r')) := by
  rw [expression] at h
  obtain ⟨_, r₀, hblanks, h⟩ := bind_eq_some h
  refine ⟨r₀, hblanks, ?_⟩
  obtain ⟨next, r₁, hpeek, h⟩ := bind_eq_some h
  obtain ⟨hnext, rfl⟩ : r₀.rest.head? = next ∧ r₀ = r₁ := by
    cases hpeek
    exact ⟨rfl, rfl⟩
  split at h
  · cases h
    exact .inl ⟨by simp [hnext], rfl, rfl⟩
  · cases h
    exact .inl ⟨by simp [hnext], rfl, rfl⟩
  · exact .inr (.inl ⟨_, _, h⟩)
  · obtain ⟨o, r₂, -, h⟩ := bind_eq_some h
    cases o with
    | directive c => exact .inr (.inr (.inl ⟨_, .directive c, _, rfl, h⟩))
    | flagged c =>
      obtain ⟨sub, r₃, -, h⟩ := bind_eq_some h
      exact .inr (.inr (.inl ⟨_, .flagged c sub, _, rfl, h⟩))
    | group index name =>
      obtain ⟨sub, r₃, -, h⟩ := bind_eq_some h
      exact .inr (.inr (.inl ⟨_, .group index name sub, _, rfl, h⟩))
  · obtain ⟨cs, hcs⟩ := List.head?_eq_some_iff.mp hnext
    obtain ⟨i, r₂, hitem, h⟩ := bind_eq_some h
    exact .inr (.inr (.inr ⟨r₂, '[', cs, i, hcs, by decide, hitem, h⟩))
  · next c hclose hbar hopen hbracket =>
    obtain ⟨cs, hcs⟩ := List.head?_eq_some_iff.mp hnext
    split at h
    · obtain ⟨rest, r₂, hrep, h⟩ := bind_eq_some h
      obtain ⟨i, is, rfl, hi⟩ := exists_cons_of_repetition hrep
      exact .inr (.inr (.inl ⟨r₂, i, is, hi, h⟩))
    · next hmark =>
      obtain ⟨i, r₂, hprimitive, h⟩ := bind_eq_some h
      refine .inr (.inr (.inr ⟨r₂, c, cs, i.toWritten, hcs, ?_, ?_, h⟩))
      · simp only [beginsItem, List.mem_cons, List.not_mem_nil, decide_eq_true_iff]
        simp_all
      · rw [item, if_neg (by simpa using hbracket), bind_apply, hprimitive]
        rfl

theorem isSingle_concat {items : List Written} (h : isSingle (concat items) = true) :
    ∃ i, items = [i] := by
  match items, h with
  | [i], _ => exact ⟨i, rfl⟩

theorem isSingle_alternation {alts : List Written} (h : isSingle (alternation alts) = true) :
    ∃ a, alts = [a] := by
  match alts, h with
  | [a], _ => exact ⟨a, rfl⟩

theorem expression_single {n : Nat} {alts items : List Written} {r r' : Reading} {w : Written}
    (h : expression n alts items r = some (w, r')) (hw : isSingle w = true) :
    alts = [] ∧ (items = [] ∨ items = [w]) := by
  induction n generalizing alts items r with
  | zero => cases h
  | succ n ih =>
    obtain ⟨r₀, -, ⟨-, -, hend⟩ | ⟨r₁, a, hmore⟩ | ⟨r₁, i, rest, hi, hmore⟩ |
      ⟨r₁, c, cs, i, -, -, -, hmore⟩⟩ := expression_cases h
    · subst hend
      obtain ⟨a, hone⟩ := isSingle_alternation hw
      obtain ⟨rfl, rfl⟩ := List.cons_eq_cons.mp (List.reverse_eq_iff.mp hone)
      refine ⟨rfl, .inr ?_⟩
      obtain ⟨i, hi⟩ := isSingle_concat hw
      obtain rfl := List.reverse_eq_iff.mp hi
      rfl
    · exact absurd (ih hmore).1 (List.cons_ne_nil _ _)
    · rcases (ih hmore).2 with hnil | hone
      · exact absurd hnil (List.cons_ne_nil _ _)
      · obtain rfl := List.head_eq_of_cons_eq hone
        rw [hi] at hw
        cases hw
    · obtain ⟨halts, hnil | hone⟩ := ih hmore
      · exact absurd hnil (List.cons_ne_nil _ _)
      · exact ⟨halts, .inl (List.cons_eq_cons.mp hone).2⟩

/-- Behind a single part nothing else is read. -/
theorem eq_of_expression_single {n : Nat} {i w : Written} {r r' : Reading}
    (h : expression (n + 1) [] [i] r = some (w, r')) (hw : isSingle w = true) :
    i = w ∧ skipBlanks r = some ((), r') ∧ ∀ c ∈ r'.rest.head?, c = ')' := by
  obtain ⟨r₀, hblanks, ⟨hclose, rfl, hend⟩ | ⟨r₁, a, hmore⟩ | ⟨r₁, j, rest, hj, hmore⟩ |
    ⟨r₁, c, cs, j, -, -, -, hmore⟩⟩ := expression_cases h
  · exact ⟨hend.symm, hblanks, hclose⟩
  · exact absurd (expression_single hmore hw).1 (List.cons_ne_nil _ _)
  · rcases (expression_single hmore hw).2 with hnil | hone
    · exact absurd hnil (List.cons_ne_nil _ _)
    · obtain rfl := List.head_eq_of_cons_eq hone
      rw [hj] at hw
      cases hw
  · rcases (expression_single hmore hw).2 with hnil | hone
    · exact absurd hnil (List.cons_ne_nil _ _)
    · exact absurd (List.cons_eq_cons.mp hone).2 (List.cons_ne_nil _ _)

/-- A source that is one class holds one item and nothing else. -/
theorem item_of_parse? {source : List Char} {w : Written} (h : parse? false source = some w)
    (hw : isSingle w = true) :
    ∃ c cs, source = c :: cs ∧ beginsItem c = true ∧
      item c (plainly source 0 []) = some (w, plainly [] 0 []) := by
  obtain ⟨⟨w', r⟩, hread, hout⟩ := Option.bind_eq_some_iff.mp h
  obtain ⟨hdone, rfl⟩ : (r.rest.isEmpty && decide (w'.depth .inside ≤ maxDepth)) = true ∧ w' = w := by
    simpa using hout
  have hempty : r.rest = [] := List.isEmpty_iff.mp (Bool.and_eq_true_iff.mp hdone).1
  obtain ⟨r₀, hblanks, ⟨-, -, hend⟩ | ⟨r₁, a, hmore⟩ | ⟨r₁, i, rest, hi, hmore⟩ |
    ⟨r₁, c, cs, i, hhead, hbegins, hitem, hmore⟩⟩ := expression_cases hread
  · subst hend
    cases hw
  · exact absurd (expression_single hmore hw).1 (List.cons_ne_nil _ _)
  · rcases (expression_single hmore hw).2 with hnil | hone
    · exact absurd hnil (List.cons_ne_nil _ _)
    · obtain rfl := List.head_eq_of_cons_eq hone
      rw [hi] at hw
      cases hw
  · obtain rfl : plainly source 0 [] = r₀ := by
      cases hblanks
      rfl
    obtain ⟨ds, rfl, -⟩ := extends_item c source 0 [] i r₁ hitem
    subst hhead
    obtain ⟨rfl, hlast, -⟩ := eq_of_expression_single hmore hw
    cases hlast
    obtain rfl : ds = [] := hempty
    exact ⟨c, cs, rfl, hbegins, hitem⟩

theorem expression_noncapturing (n : Nat) (alts items : List Written) (cs : List Char) (g : Nat)
    (ns : List (List Char)) :
    expression (n + 1) alts items (plainly ('(' :: '?' :: ':' :: cs) g ns) =
      (enclosed [] (expression n [] []) (plainly cs g ns)).bind fun x =>
        expression n alts (.flagged [] x.1 :: items) x.2 := by
  rw [expression, bind_apply]
  show Option.bind (some ((), plainly ('(' :: '?' :: ':' :: cs) g ns)) _ = _
  rw [Option.bind_some, bind_apply]
  rfl

theorem enclosed_apply {m : Parse Written} {cs ds : List Char} {g g' : Nat} {ns ns' : List (List Char)}
    {w : Written} (h : m (plainly cs g ns) = some (w, plainly (')' :: ds) g' ns')) :
    enclosed [] m (plainly cs g ns) = some (w, plainly ds g' ns') := by
  show (m (plainly cs g ns)).bind _ = _
  rw [h]
  rfl

theorem expression_star (n : Nat) (i : Written) (hi : repeatable i = true) (g : Nat)
    (ns : List (List Char)) :
    expression (n + 2) [] [i] (plainly ['*'] g ns) = some (.rep 0 none true i, plainly [] g ns) := by
  have hrep : repetition '*' [i] (plainly ['*'] g ns) =
      some ([.rep 0 none true i], plainly [] g ns) := by
    rw [repetition, hi]
    rfl
  rw [expression, bind_apply]
  show Option.bind (some ((), plainly ['*'] g ns)) _ = _
  rw [Option.bind_some, bind_apply]
  show Option.bind (some (some '*', plainly ['*'] g ns)) _ = _
  show (repetition '*' [i] >>= fun items => expression (n + 1) [] items) (plainly ['*'] g ns) = _
  rw [bind_apply, hrep]
  rfl

/-- The tree of the repetition of a class. -/
def star (w : Written) : Written := .rep 0 none true (.flagged [] w)

/-- The repetition of a class is read as such, unless that takes it too deep. -/
theorem parse?_starOf {source : List Char} {w : Written} (h : parse? false source = some w)
    (hw : isSingle w = true) : parse? false (starOf source) =
      if (star w).depth .inside ≤ maxDepth then some (star w) else none := by
  obtain ⟨c, cs, rfl, hbegins, hitem⟩ := item_of_parse? h hw
  obtain ⟨ds, hds, hitem'⟩ := extends_item c (c :: cs) 0 [] w _ hitem
  obtain rfl : [] = ds := congrArg Reading.rest hds
  have hinside (n : Nat) : expression (n + 2) [] [] (plainly (c :: cs ++ behind) 0 []) =
      some (w, plainly behind 0 []) := by
    rw [List.cons_append, expression_item hbegins, ← List.cons_append, hitem']
    rfl
  have hread : expression ((starOf (c :: cs)).length + 1) [] [] (plainly (starOf (c :: cs)) 0 []) =
      some (star w, plainly [] 0 []) := by
    have hlength : (starOf (c :: cs)).length + 1 = cs.length + 3 + 2 + 1 + 1 := by
      simp [starOf, behind]
    rw [hlength, starOf, List.cons_append, List.cons_append, List.cons_append, List.nil_append,
      expression_noncapturing, enclosed_apply (hinside _)]
    exact expression_star _ _ rfl 0 []
  show (expression ((starOf (c :: cs)).length + 1) [] [] (plainly (starOf (c :: cs)) 0 [])).bind _ = _
  rw [hread]
  show (if _ then _ else _) = _
  simp [plainly]

end Rewind.Written
