import Mathlib.Logic.Function.Iterate
import Rewind.Proofs.Script.Records

/-! The loops and the recursion of scripts come to an end. A bound on their depth is built into the
definitions; here whatever is put in the place of what lies deeper is never got to, since each turn has
fewer units to come than the one before it (`sum_iterate`, `link_iterate`, `turn_iterate`). -/
namespace Rewind

open Scanner (Tracks Agree)

namespace Rule

variable {α β : Type} {s : Scanner}

/-- Two rules are the same from where a scanner stands if their first parts are, and what follows these
is from where they lead. -/
theorem bind_congr {rule rule' : Rule β} {k k' : β → Rule α} (h : rule s = rule' s)
    (hk : ∀ b t, rule' s = (some b, t) → k b t = k' b t) :
    (rule >>= k : Rule α) s = (rule' >>= k' : Rule α) s := by
  rw [bind_apply, bind_apply, h]
  cases hrule : rule' s with
  | mk out t =>
    cases out with
    | none => rfl
    | some b => exact hk b t hrule

/-- Where a rule that reads comes to an outcome its reading does, and what that leaves is to come. -/
theorem Reads.of_eq_some {rule : Rule α} {read : Reading α} (h : rule.Reads read) {p : Position}
    (hs : Tracks s p) {a : α} {t : Scanner} (hrun : rule s = (some a, t)) :
    ∃ q, Tracks t q ∧ read p.rest = some (a, q.rest) := by
  obtain ⟨q, ⟨hout, ht⟩, -, hrest⟩ := h s p hs
  rw [hrun] at hout ht
  obtain ⟨⟨b, rest⟩, hread, hb⟩ := Option.map_eq_some_iff.mp hout.symm
  obtain rfl : b = a := hb
  obtain rfl : q.rest = rest := hrest _ hread
  exact ⟨q, ht, hread⟩

end Rule

namespace Script

variable {s : Scanner} {p : Position} {read : Reading Expr}

/-- An expression takes a unit at least. -/
theorem Sound.length_lt {l : Level} (h : Sound l read) {cs rest : List Char} {e : Expr}
    (hread : read cs = some (e, rest)) : rest.length < cs.length := by
  obtain ⟨w, last, rfl, hderives, -⟩ := h cs e rest hread
  obtain ⟨c, ds, rfl, -⟩ := hderives.exists_cons
  rw [List.length_append]
  exact Nat.lt_add_of_pos_left (Nat.succ_pos _)

/-- Blanks are skipped from wherever a scanner stands. -/
theorem tracks_skipBlanks {n : Nat} {t : Scanner} (hs : Tracks s p)
    (h : skipBlanks s = (some n, t)) : ∃ q, Tracks t q ∧ q.rest.length ≤ p.rest.length := by
  obtain ⟨k, q, ⟨-, ht⟩, -, hrest⟩ := agree_skipBlanks hs
  rw [h] at ht
  exact ⟨q, ht, hrest ▸ (List.dropWhile_suffix _).length_le⟩

/-- Two rules do the same wherever fewer than some units are to come. -/
def SameBelow {α : Type} (n : Nat) (rule rule' : Rule α) : Prop :=
  ∀ t q, Tracks t q → q.rest.length < n → rule t = rule' t

theorem SameBelow.mono {α : Type} {n m : Nat} {rule rule' : Rule α} (h : SameBelow n rule rule')
    (hle : m ≤ n) : SameBelow m rule rule' :=
  fun t q ht hq => h t q ht (Nat.lt_of_lt_of_le hq hle)

/-! ## Chains -/

/-- One operator and one operand behind it, and what comes after them. -/
def link (ops : Char × Char) (operand : Rule Expr) (after : Expr → Rule Expr) (a : Expr) :
    Rule Expr := do
  let start := (← get).here
  let _ ← skipBlanks
  match ← Rule.scan (operator ops).run with
  | some op =>
    let _ ← skipBlanks
    let b ← operand
    after (.apply op a b)
  | none =>
    Rule.rewind start
    return a

theorem foldOperators_succ (ops : Char × Char) (operand : Rule Expr) (n : Nat) :
    foldOperators ops operand (n + 1) = link ops operand (foldOperators ops operand n) := rfl

section

variable {ops : Char × Char} {operand operand' : Rule Expr} {l : Level} {n : Nat}

theorem readUnit_length_lt {c d : Char} {cs ds : List Char} (h : readUnit c cs = some (d, ds)) :
    ds.length < cs.length := by
  obtain ⟨-, rfl⟩ := readUnit_eq_some.mp h
  exact Nat.lt_succ_self _

theorem readOperator_length_lt {cs ds : List Char} {op : Char}
    (h : readOperator ops cs = some (op, ds)) : ds.length < cs.length := by
  rw [readOperator] at h
  cases hfirst : readUnit ops.1 cs with
  | some x =>
    rw [hfirst] at h
    cases h
    exact readUnit_length_lt hfirst
  | none =>
    rw [hfirst] at h
    exact readUnit_length_lt h

/-- An operator takes a unit, so there are fewer to come for its operand and for what is behind that. -/
theorem link_congr (hreads : operand'.Reads read) (hsound : Sound l read)
    (h : SameBelow n operand operand') {after after' : Expr → Rule Expr}
    (hafter : ∀ e, SameBelow n (after e) (after' e)) (a : Expr) :
    SameBelow (n + 1) (link ops operand after a) (link ops operand' after' a) := by
  intro s p hs hn
  refine Rule.bind_congr rfl fun start t hget => ?_
  cases hget
  refine Rule.bind_congr rfl fun k t hskip => ?_
  obtain ⟨q, ht, hq⟩ := tracks_skipBlanks hs hskip
  rw [Rule.scan_bind_apply, Rule.scan_bind_apply]
  cases hop : (operator ops).run t with
  | mk out u =>
    cases out with
    | none => rfl
    | some op =>
      obtain ⟨r, hu, hread⟩ := (tries_operator ops).reads.of_eq_some ht hop
      have hr : r.rest.length < n := by
        have := readOperator_length_lt hread
        omega
      refine Rule.bind_congr rfl fun k v hskip' => ?_
      obtain ⟨r', hv, hr'⟩ := tracks_skipBlanks hu hskip'
      refine Rule.bind_congr (h v r' hv (by omega)) fun b w hb => ?_
      obtain ⟨r'', hw, hread'⟩ := hreads.of_eq_some hv hb
      have hlt := hsound.length_lt hread'
      exact hafter _ w r'' hw (by omega)

theorem foldOperators_congr (hreads : operand'.Reads read) (hsound : Sound l read)
    (h : SameBelow n operand operand') (k : Nat) (a : Expr) :
    SameBelow (n + 1) (foldOperators ops operand k a) (foldOperators ops operand' k a) := by
  induction k generalizing a with
  | zero => exact fun _ _ _ _ => rfl
  | succ k ih => exact link_congr hreads hsound h (fun e => (ih e).mono (Nat.le_succ n)) a

theorem operands_congr (hreads : operand'.Reads read) (hsound : Sound l read)
    (h : SameBelow n operand operand') :
    SameBelow n (operands ops operand) (operands ops operand') := by
  intro s p hs hn
  refine Rule.bind_congr (h s p hs hn) fun a t ha => ?_
  refine Rule.bind_congr rfl fun t' u hget => ?_
  cases hget
  obtain ⟨q, ht, hread⟩ := hreads.of_eq_some hs ha
  have hlt := hsound.length_lt hread
  exact foldOperators_congr hreads hsound h _ a t q ht (by omega)

/-- However deep a chain is followed, it is not followed deeper than there are units to come. -/
theorem link_iterate (hreads : operand.Reads read) (hsound : Sound l read)
    (bottom : Expr → Rule Expr) (n : Nat) (a : Expr) :
    SameBelow n ((link ops operand)^[n] bottom a) (foldOperators ops operand n a) := by
  induction n generalizing a with
  | zero => exact fun _ _ _ hq => absurd hq (Nat.not_lt_zero _)
  | succ n ih =>
    rw [Function.iterate_succ_apply', foldOperators_succ]
    exact link_congr hreads hsound (fun _ _ _ _ => rfl) ih a

end

/-! ## Parentheses -/

section

variable {inner inner' : Rule Expr} {n : Nat}

theorem tracks_of_acceptPattern_none (hs : Tracks s p) {r : Pattern} {t : Scanner}
    (h : s.acceptPattern r = (none, t)) : Tracks t p := by
  obtain ⟨hout, ht⟩ := hs.acceptPattern r
  rw [h] at hout ht
  rw [Position.acceptPattern] at hout ht
  split at ht
  · next m hm =>
    rw [hm] at hout
    cases hout
  · exact ht

/-- A parenthesis takes a unit, so there are fewer to come for what is inside. -/
theorem atom_congr (h : SameBelow n inner inner') : SameBelow (n + 1) (atom inner) (atom inner') := by
  intro s p hs hn
  unfold atom
  rw [Rule.scan_bind_apply, Rule.scan_bind_apply]
  cases hnumber : s.acceptPattern number with
  | mk out t =>
    cases out with
    | some m => rfl
    | none =>
      have ht := tracks_of_acceptPattern_none hs hnumber
      simp only
      rw [Rule.scan_bind_apply, Rule.scan_bind_apply]
      cases hopen : t.accept '(' with
      | mk out u =>
        cases out with
        | none => rfl
        | some c =>
          obtain ⟨q, hu, hread⟩ := (Rule.tries_accept '(').reads.of_eq_some ht hopen
          have hq := readUnit_length_lt hread
          refine Rule.bind_congr rfl fun k v hskip => ?_
          obtain ⟨r, hv, hr⟩ := tracks_skipBlanks hu hskip
          exact Rule.bind_congr (h v r hv (by omega)) fun _ _ _ => rfl

theorem sum_congr (hreads : inner'.Reads read) (hsound : Sound (.chain .sum) read)
    (h : SameBelow n inner inner') : SameBelow (n + 1) (sum inner) (sum inner') := by
  have hatom := atom_congr h
  have hproduct : SameBelow (n + 1) (product inner) (product inner') :=
    operands_congr (reads_atom hreads) (sound_readAtom hsound) hatom
  exact operands_congr (reads_operands _ (reads_atom hreads))
    (sound_readOperands (t := .product) (sound_readAtom hsound)) hproduct

theorem sum_iterate (bottom : Rule Expr) (n : Nat) :
    SameBelow n (sum^[n] bottom) (expressionWithin n) := by
  induction n with
  | zero => exact fun _ _ _ hq => absurd hq (Nat.not_lt_zero _)
  | succ n ih =>
    rw [Function.iterate_succ_apply']
    exact sum_congr (reads_within n) (sound_readWithin n) ih

end

/-! ## Lines -/

/-- A record takes a unit, so there are fewer to come for the next turn of the loop over the lines. -/
theorem turn_iterate (bottom : Scan (List Record)) {n : Nat} (hs : Tracks s p)
    (ho : p.options = .standard) (hn : p.rest.length < n) :
    (turn^[n] bottom) s = recordsWithin n s := by
  induction n generalizing s p with
  | zero => exact absurd hn (Nat.not_lt_zero _)
  | succ n ih =>
    obtain ⟨q, r, hturn⟩ := exists_turn hs ho
    rw [Function.iterate_succ_apply', recordsWithin_succ, turn_apply, turn_apply, hturn.atEnd_eq]
    simp only [decide_eq_true_eq]
    by_cases hnil : p.rest.dropWhile isSpace = []
    · rw [if_pos hnil, if_pos hnil]
    · have hlt := hturn.length_lt hnil
      rw [if_neg hnil, if_neg hnil, ih hturn.tracks_next (hturn.options_eq.trans ho) (by omega)]

/-! ## From where a scanner stands -/

theorem expression_apply (s : Scanner) : expression s = expressionWithin (s.remaining + 1) s :=
  Rule.get_bind_apply (fun s => expressionWithin (s.remaining + 1)) s

theorem SameBelow.eq_of_lt {α : Type} {rule rule' : Rule α} {n : Nat} (h : SameBelow n rule rule')
    (hs : Tracks s p) (hn : s.remaining < n) : rule s = rule' s :=
  h s p hs (hs.remaining_eq ▸ hn)

end Script

open Script

/-- The recursion of expressions and the loops of their chains come to an end from where a scanner
stands. They have the same outcome whatever is put `n` levels deep, if fewer than `n` units are to
come. -/
structure Scanner.ComesToAnEnd (s : Scanner) : Prop where
  expressions : ∀ (bottom : Rule Expr) n, s.remaining < n → (sum^[n] bottom) s = expression s
  sums : ∀ k (bottom : Expr → Rule Expr) n a, s.remaining < n →
    ((link ('+', '-') (product (expressionWithin k)))^[n] bottom a) s =
      foldOperators ('+', '-') (product (expressionWithin k)) (s.remaining + 1) a s
  products : ∀ k (bottom : Expr → Rule Expr) n a, s.remaining < n →
    ((link ('*', '/') (atom (expressionWithin k)))^[n] bottom a) s =
      foldOperators ('*', '/') (atom (expressionWithin k)) (s.remaining + 1) a s

theorem Scanner.Tracks.comesToAnEnd {s : Scanner} {p : Position} (hs : Tracks s p) :
    s.ComesToAnEnd where
  expressions bottom n hn := by
    obtain ⟨k, rfl⟩ := Nat.exists_eq_add_of_le (Nat.succ_le_of_lt hn)
    rw [Function.iterate_add_apply, expression_apply]
    exact (sum_iterate _ _).eq_of_lt hs (Nat.lt_succ_self _)
  sums k bottom n a hn := by
    obtain ⟨m, rfl⟩ := Nat.exists_eq_add_of_le (Nat.succ_le_of_lt hn)
    have hreads := reads_operands ('*', '/') (reads_atom (reads_within k))
    have hsound := sound_readOperands (t := .product) (sound_readAtom (sound_readWithin k))
    rw [Function.iterate_add_apply]
    exact (link_iterate hreads hsound _ _ a).eq_of_lt hs (Nat.lt_succ_self _)
  products k bottom n a hn := by
    obtain ⟨m, rfl⟩ := Nat.exists_eq_add_of_le (Nat.succ_le_of_lt hn)
    have hreads := reads_atom (reads_within k)
    have hsound := sound_readAtom (sound_readWithin k)
    rw [Function.iterate_add_apply]
    exact (link_iterate hreads hsound _ _ a).eq_of_lt hs (Nat.lt_succ_self _)

end Rewind
