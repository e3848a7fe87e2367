import Rewind.Proofs.Pattern.Footprint
import Rewind.Proofs.Pattern.Modes
import Rewind.Proofs.Pattern.Source

/-! Patterns of one class and their repetitions. The class takes one character of a set, whatever the
set is written as, and the repetition takes the longest run of such characters
(`matchesOne_of_isSingle`, `search_starOf`). -/
namespace Rewind

namespace CharSet

/-- Where a set has just one character, that is a character of some length. -/
theorem utf8Size_ne_zero (n : Nat) : (Char.ofNat n).utf8Size ≠ 0 :=
  Nat.ne_of_gt (Char.ofNat n).utf8Size_pos

end CharSet

namespace Regex

/-- However a set is written, its program is a state that takes characters. -/
theorem layOut_ofSet (bytes : Bool) (s : CharSet) :
    ∃ u, ∀ base, Program.layOut (ofSet bytes s) base = [.take u (base + 1)] := by
  unfold ofSet
  split
  · exact ⟨.empty, fun _ => rfl⟩
  · split
    · next c _ => exact ⟨.singleton c, fun _ => rfl⟩
    · exact ⟨s, fun _ => rfl⟩

/-- No set matches the empty text only. -/
theorem maxWidth_ofSet (bytes : Bool) (s : CharSet) : (ofSet bytes s).maxWidth ≠ some 0 := by
  unfold ofSet
  split
  · exact nofun
  · split
    · next c _ =>
      intro h
      have hpos := c.utf8Size_pos
      have hzero : c.utf8Size + 0 = 0 := Option.some.inj h
      omega
    · intro h
      obtain ⟨r, -, hzero⟩ := Option.map_eq_some_iff.mp h
      exact CharSet.utf8Size_ne_zero _ hzero

theorem repetition_ofSet (bytes : Bool) (s : CharSet) :
    repetition 0 none true (ofSet bytes s) = .rep 0 none true (ofSet bytes s) := by
  simp [repetition, maxWidth_ofSet]

end Regex

namespace Written

variable {k : Unicode.Catalog} {w : Written}

theorem alternatives?_of_isSingle (hw : w.isSingle = true) {rs : List Regex} {f : Flags}
    (h : w.alternatives? k {} = some (rs, f)) :
    f = {} ∧ ∃ s, rs = [.ofSet false s] := by
  cases w with
  | literal l | dot =>
    cases h
    exact ⟨rfl, _, rfl⟩
  | named c =>
    obtain ⟨s, -, hout⟩ := Option.bind_eq_some_iff.mp h
    cases hout
    exact ⟨rfl, s, rfl⟩
  | bracketed negated body =>
    obtain ⟨t, -, ht⟩ := Option.bind_eq_some_iff.mp h
    obtain ⟨s, -, hout⟩ := Option.bind_eq_some_iff.mp ht
    cases hout
    exact ⟨rfl, s, rfl⟩
  | _ => cases hw

theorem regex?_of_isSingle (hw : w.isSingle = true) {r : Regex} (h : w.regex? k {} = some r) :
    (∃ s, r = .ofSet false s) ∧ (star w).regex? k {} = some (.rep 0 none true r) := by
  obtain ⟨⟨rs, f⟩, halternatives, rfl⟩ := Option.map_eq_some_iff.mp h
  obtain ⟨rfl, s, rfl⟩ := alternatives?_of_isSingle hw halternatives
  refine ⟨⟨s, rfl⟩, ?_⟩
  have hstar : (star w).alternatives? k {} =
      some ([.repetition 0 none true (.ofSet false s)], {}) := by
    show Option.bind (Option.bind (w.alternatives? k {}) _) _ = _
    rw [halternatives]
    rfl
  rw [regex?, hstar, Regex.repetition_ofSet]
  rfl

end Written

namespace Program

/-- A program with one state that takes a character. -/
def one (u : CharSet) : Program := ⟨#[.take u 1, .accept]⟩

/-- A repetition that goes back to its fork. -/
def looping (u : CharSet) : Program := ⟨#[.fork 1 3, .take u 2, .jump 0, .accept]⟩

/-- A repetition that forks again behind each character. -/
def forking (u : CharSet) : Program := ⟨#[.fork 1 3, .take u 2, .fork 1 3, .accept]⟩

theorem ofRegex_ofSet (bytes : Bool) (s : CharSet) :
    ∃ u, ofRegex (.ofSet bytes s) = one u ∧
      (ofRegex (.rep 0 none true (.ofSet bytes s)) = looping u ∨
        ofRegex (.rep 0 none true (.ofSet bytes s)) = forking u) := by
  obtain ⟨u, hu⟩ := Regex.layOut_ofSet bytes s
  have hone : layOut (.ofSet bytes s) 1 = [.take u 2] := hu 1
  refine ⟨u, ?_, ?_⟩
  · rw [ofRegex, hu]
    rfl
  · rw [ofRegex, layOut, zeroOrMore]
    split
    · right
      simp only [optionals, oneOrMore, hone]
      rfl
    · left
      simp only [hone]
      rfl

/-- Where one thread that takes a character is ahead of all that accept, it alone goes on. -/
theorem advance_of_take {p : Program} (ts : List Thread) {i j : Nat} {u : CharSet}
    (hahead : (ts.takeWhile fun t => !p.accepts t) = [bare i])
    (hstate : p.state? i = some (.take u j)) (c : Char) :
    p.advance c ts = (if u.contains c then [bare j] else []) := by
  have hstep : p.step? c (bare i) = if u.contains c then some (bare j) else none := by
    rw [step?, show p.state? (bare i).state = _ from hstate]
    rfl
  rw [advance, hahead, List.filterMap_cons, hstep]
  cases u.contains c <;> rfl

/-- A class is at its start or behind its character. -/
def oneModes (u : CharSet) : Modes (one u) Bool where
  entry m := if m then 1 else 0
  accepts m := m
  next m c := if !m && u.contains c then some true else none
  better_eq m holds offset best := by cases m <;> rfl
  advance_eq m holds offset c := by
    cases m with
    | true => rfl
    | false =>
      refine (advance_of_take [bare 0] (i := 0) (j := 1) (u := u) rfl rfl c).trans ?_
      cases u.contains c <;> simp

/-- A repetition is before its first character or behind one, which makes no difference. -/
def loopingModes (u : CharSet) : Modes (looping u) Bool where
  entry m := if m then 2 else 0
  accepts _ := true
  next _ c := if u.contains c then some true else none
  better_eq m holds offset best := by cases m <;> rfl
  advance_eq m holds offset c := by
    have htake := advance_of_take (p := looping u) [bare 1, bare 3] rfl rfl c
    cases m <;> refine htake.trans ?_ <;> cases u.contains c <;> rfl

def forkingModes (u : CharSet) : Modes (forking u) Bool where
  entry m := if m then 2 else 0
  accepts _ := true
  next _ c := if u.contains c then some true else none
  better_eq m holds offset best := by cases m <;> rfl
  advance_eq m holds offset c := by
    have htake := advance_of_take (p := forking u) [bare 1, bare 3] rfl rfl c
    cases m <;> refine htake.trans ?_ <;> cases u.contains c <;> rfl

/-- The one character that a class takes. -/
theorem search_one (u : CharSet) (c : Char) :
    ((one u).search none 0 [c]).any (fun found => found.stop = c.utf8Size) = u.contains c := by
  rw [(oneModes u).search_eq (m := false) rfl]
  cases h : u.contains c with
  | true => simp [Modes.longest, oneModes, h, Text.width]
  | false => simp [Modes.longest, oneModes, h]

/-- A repetition finds the longest run. -/
theorem search_run {p : Program} {u : CharSet} (hp : p = looping u ∨ p = forking u)
    (before : Option Char) (offset : Nat) (rest : List Char) :
    p.search before offset rest =
      some ⟨offset + Text.width (rest.takeWhile u.contains), []⟩ := by
  have hnext : ∀ c, (if u.contains c then some true else none).isSome = u.contains c := by
    intro c
    cases u.contains c <;> rfl
  rcases hp with rfl | rfl
  · rw [(loopingModes u).search_eq (m := false) rfl,
      (loopingModes u).longest_of_accepts (K := fun _ => True) (fun _ _ => rfl)
        (fun _ _ _ _ _ => trivial) (fun _ c _ => hnext c) trivial]
    rfl
  · rw [(forkingModes u).search_eq (m := false) rfl,
      (forkingModes u).longest_of_accepts (K := fun _ => True) (fun _ _ => rfl)
        (fun _ _ _ _ _ => trivial) (fun _ c _ => hnext c) trivial]
    rfl

end Program

namespace Pattern

open Written (starOf)

variable {k : Unicode.Catalog} {source : List Char} {p q : Pattern}

theorem compileWith_eq_ok {flags : Flags} (h : compileWith k source flags = .ok p) :
    ∃ w r, Written.parse? flags.ignoreWhitespace source = some w ∧ w.regex? k flags = some r ∧
      p = ofRegex source flags r := by
  unfold compileWith at h
  split at h
  · cases h
  · next w hw =>
    split at h
    · cases h
    · next r hr =>
      split at h
      · exact ⟨w, r, hw, hr, (Except.ok.inj h).symm⟩
      · cases h

/-- A pattern is one class: its text is that of one class, read with the flags that hold where no
others are given. The class may name the properties of a catalog. -/
def IsClass (k : Unicode.Catalog) (p : Pattern) (source : List Char) : Prop :=
  compileWith k source {} = .ok p ∧ (Written.parse? false source).any Written.isSingle = true

/-- The repetition of a class repeats the expression of the class. -/
theorem regex_starOf (hp : p.IsClass k source) (hq : compileWith k (starOf source) {} = .ok q) :
    (∃ s, p.program = .ofRegex (.ofSet false s) ∧
      q.program = .ofRegex (.rep 0 none true (.ofSet false s))) := by
  obtain ⟨hcompile, hclass⟩ := hp
  obtain ⟨w, hw, hsingle⟩ := (Option.any_eq_true _ _).mp hclass
  obtain ⟨w', r, hw', hr, rfl⟩ := compileWith_eq_ok hcompile
  obtain rfl : w = w' := Option.some.inj (hw.symm.trans hw')
  obtain ⟨v, r', hv, hr', rfl⟩ := compileWith_eq_ok hq
  rw [show ({} : Flags).ignoreWhitespace = false from rfl, Written.parse?_starOf hw hsingle] at hv
  obtain rfl := Option.some.inj (Option.ite_none_right_eq_some.mp hv).2
  obtain ⟨⟨s, rfl⟩, hstar⟩ := Written.regex?_of_isSingle hsingle hr
  obtain rfl : _ = r' := Option.some.inj (hstar.symm.trans hr')
  exact ⟨s, rfl, rfl⟩

/-- The repetition of a class finds the longest run of the characters that the class takes. -/
theorem search_starOf (hp : p.IsClass k source) (hq : compileWith k (starOf source) {} = .ok q)
    (before : Option Char) (offset : Nat) (rest : List Char) : q.program.search before offset rest =
      some ⟨offset + Text.width (rest.takeWhile p.matchesOne), []⟩ := by
  obtain ⟨s, hp, hq⟩ := regex_starOf hp hq
  obtain ⟨u, hone, hrun⟩ := Program.ofRegex_ofSet false s
  have hmatches : p.matchesOne = u.contains := by
    funext c
    rw [matchesOne, hp, hone]
    exact Program.search_one u c
  rw [hmatches]
  exact Program.search_run (hq ▸ hrun) before offset rest

/-- Classes that are not too deep and not too large have repetitions that compile. -/
theorem compile_starOf {r : Regex}
    (hread : (Written.parse? false source).bind (·.regex? k {}) = some r)
    (hclass : (Written.parse? false source).any (fun w =>
      w.isSingle && decide (w.star.depth .inside ≤ Written.maxDepth)) = true)
    (hwords : r.hasNoWords = true) (hbound : r.bytesBound + 432 ≤ footprintLimit) :
    compileWith k (starOf source) {} = .ok (ofRegex (starOf source) {} (.rep 0 none true r)) := by
  obtain ⟨w, hw, hr⟩ := Option.bind_eq_some_iff.mp hread
  rw [hw] at hclass
  obtain ⟨hsingle, hdepth⟩ := Bool.and_eq_true_iff.mp hclass
  refine compile_of_bound ?_ hwords ?_
  · rw [show ({} : Flags).ignoreWhitespace = false from rfl, Written.parse?_starOf hw hsingle,
      if_pos (of_decide_eq_true hdepth)]
    exact (Written.regex?_of_isSingle hsingle hr).2
  · rw [Regex.bytesBound]
    show (0 + 0 + 1) * (r.bytesBound + 40) + 184 + 208 ≤ footprintLimit
    omega

end Pattern

namespace Options

open Pattern (IsClass)
open Written (starOf)

theorem isClass_word : IsClass .empty standard.word wordSource.toList :=
  ⟨compile_wordSource, by decide +kernel⟩

theorem isClass_space : IsClass .empty standard.space spaceSource.toList :=
  ⟨compile_spaceSource, by decide +kernel⟩

theorem compile_starOf_word : Pattern.compile (starOf wordSource.toList) {} =
    .ok (.ofRegex (starOf wordSource.toList) {} (.rep 0 none true standard.word.regex)) :=
  Pattern.compile_starOf read_wordSource (by decide +kernel) rfl bytesBound_word

theorem compile_starOf_space : Pattern.compile (starOf spaceSource.toList) {} =
    .ok (.ofRegex (starOf spaceSource.toList) {} (.rep 0 none true standard.space.regex)) :=
  Pattern.compile_starOf read_spaceSource (by decide +kernel) rfl bytesBound_space

end Options

end Rewind
