import Rewind.Pattern.Basic

/-! Programs that are in one mode at a time. Where a program has no conditions and never has to try two
ways at once, a run comes down to a walk from mode to mode (`Walk.search_eq`). Where it has no groups
either, what the walk finds is the longest beginning of the text on which it passes an accepting mode
(`Modes.search_eq`). -/
namespace Rewind

/-- A pattern finds what a function takes from the start of the text to come, and sees nothing else. -/
structure Pattern.Lexes (r : Pattern) (lex : List Char → List Char) : Prop where
  search_eq : ∀ before offset rest, r.program.search before offset rest =
    if lex rest = [] then none else some ⟨offset + Text.width (lex rest), []⟩
  begins : ∀ rest, lex rest <+: rest

namespace Program

/-- An account of a program that has one thread at a time, by modes. In a mode the thread may hold
groups, so what it finds and where a character leads may depend on where it is in the text. -/
structure Walk (p : Program) (M : Type) where
  entry : M → Thread
  /-- The groups that have been closed, if the mode accepts. -/
  closed? : M → Option (List (Nat × Nat × Nat))
  next : M → Nat → Char → Option M
  better_eq : ∀ m holds offset best,
    p.better offset (p.closure holds offset [entry m]) best =
      ((closed? m).map (⟨offset, ·⟩)).or best
  advance_eq : ∀ m holds offset c,
    p.advance c (p.closure holds offset [entry m]) = ((next m offset c).map entry).toList

namespace Walk

variable {p : Program} {M : Type}

/-- What a walk finds that goes on as far as it can. -/
def found (a : Walk p M) (m : M) (offset : Nat) : List Char → Option Found
  | [] => (a.closed? m).map (⟨offset, ·⟩)
  | c :: cs =>
    ((a.next m offset c).bind fun k => a.found k (offset + c.utf8Size) cs).or
      ((a.closed? m).map (⟨offset, ·⟩))

/-- A run from a mode finds what the walk finds, or keeps what it has found before. -/
theorem run_eq (a : Walk p M) (m : M) (before : Option Char) (offset : Nat) (cs : List Char)
    (best : Option Found) :
    p.run before offset cs [a.entry m] best = (a.found m offset cs).or best := by
  induction cs generalizing m before offset best with
  | nil => rw [run, a.better_eq, found]
  | cons c cs ih =>
    rw [run, a.better_eq, a.advance_eq, found]
    cases a.next m offset c with
    | none => rfl
    | some k =>
      simp only [Option.map_some, Option.toList_some, List.isEmpty_cons, Bool.false_eq_true,
        if_false, Option.bind_some, ih, Option.or_assoc]

theorem search_eq (a : Walk p M) {m : M} (hm : a.entry m = start) (before : Option Char)
    (offset : Nat) (rest : List Char) :
    p.search before offset rest = a.found m offset rest := by
  have hrun := a.run_eq m before offset rest none
  rw [hm, Option.or_none] at hrun
  exact hrun

end Walk

/-- A thread that is in no group and has left none. -/
def bare (i : Nat) : Thread := ⟨i, [], []⟩

/-- An account of a program by modes. A mode is entered at a state, it accepts or not, and a character
leads from it to another mode or stops the walk. -/
structure Modes (p : Program) (M : Type) where
  entry : M → Nat
  accepts : M → Bool
  next : M → Char → Option M
  better_eq : ∀ m holds offset best,
    p.better offset (p.closure holds offset [bare (entry m)]) best =
      if accepts m then some ⟨offset, []⟩ else best
  advance_eq : ∀ m holds offset c,
    p.advance c (p.closure holds offset [bare (entry m)]) =
      ((next m c).map fun k => bare (entry k)).toList

namespace Modes

variable {p : Program} {M : Type}

/-- The longest beginning of a text on which a walk ends in an accepting mode. -/
def longest (a : Modes p M) (m : M) : List Char → Option (List Char)
  | [] => if a.accepts m then some [] else none
  | c :: cs =>
    match (a.next m c).bind fun k => a.longest k cs with
    | some w => some (c :: w)
    | none => if a.accepts m then some [] else none

/-- Among modes that accept and that lead to no others, all units of a class that come next are
taken. -/
theorem longest_of_accepts (a : Modes p M) {K : M → Prop} {f : Char → Bool}
    (haccepts : ∀ m, K m → a.accepts m = true)
    (hstays : ∀ m c k, K m → a.next m c = some k → K k)
    (hnext : ∀ m c, K m → (a.next m c).isSome = f c) {m : M} (hm : K m) (cs : List Char) :
    a.longest m cs = some (cs.takeWhile f) := by
  induction cs generalizing m with
  | nil => rw [longest, if_pos (haccepts m hm), List.takeWhile_nil]
  | cons c cs ih =>
    rw [longest, List.takeWhile_cons, ← hnext m c hm]
    cases hk : a.next m c with
    | none => simp [haccepts m hm]
    | some k => simp [ih (hstays m c k hm hk)]

/-- A mode that is kept while units are of a class takes all of them that come next. -/
theorem longest_loop (a : Modes p M) {m : M} {f : Char → Bool} (hm : a.accepts m = true)
    (hnext : ∀ c, a.next m c = if f c then some m else none) (cs : List Char) :
    a.longest m cs = some (cs.takeWhile f) := by
  refine a.longest_of_accepts (K := fun k => k = m) ?_ ?_ ?_ rfl cs
  · rintro k rfl
    exact hm
  · rintro k c k' rfl hk
    rw [hnext] at hk
    exact (Option.some.inj (Option.ite_none_right_eq_some.mp hk).2).symm
  · rintro k c rfl
    rw [hnext]
    cases f c <;> rfl

/-- A mode that does not accept has to go on. -/
theorem longest_cons (a : Modes p M) {m : M} (hm : a.accepts m = false) (c : Char)
    (cs : List Char) :
    a.longest m (c :: cs) = ((a.next m c).bind fun k => a.longest k cs).map (c :: ·) := by
  rw [longest, hm]
  cases (a.next m c).bind fun k => a.longest k cs <;> rfl

def toWalk (a : Modes p M) : Walk p M where
  entry m := bare (a.entry m)
  closed? m := if a.accepts m then some [] else none
  next m _ c := a.next m c
  better_eq m holds offset best := by
    rw [a.better_eq]
    cases a.accepts m <;> rfl
  advance_eq m holds offset c := a.advance_eq m holds offset c

/-- What the walk finds ends with the longest beginning. -/
theorem found_eq (a : Modes p M) (m : M) (offset : Nat) (cs : List Char) :
    a.toWalk.found m offset cs = (a.longest m cs).map fun w => ⟨offset + Text.width w, []⟩ := by
  have hclosed : ∀ m, a.toWalk.closed? m = if a.accepts m then some [] else none := fun _ => rfl
  induction cs generalizing m offset with
  | nil =>
    rw [Walk.found, hclosed, longest]
    cases a.accepts m <;> rfl
  | cons c cs ih =>
    have hnext : a.toWalk.next m offset c = a.next m c := rfl
    rw [Walk.found, hnext, hclosed, longest]
    cases a.next m c with
    | none => cases a.accepts m <;> rfl
    | some k =>
      rw [Option.bind_some, Option.bind_some, ih]
      cases a.longest k cs with
      | none => cases a.accepts m <;> rfl
      | some w => simp only [Option.map_some, Option.some_or, Text.width, Nat.add_assoc]

theorem search_eq (a : Modes p M) {m : M} (hm : a.entry m = 0) (before : Option Char)
    (offset : Nat) (rest : List Char) :
    p.search before offset rest =
      (a.longest m rest).map fun w => ⟨offset + Text.width w, []⟩ := by
  rw [← a.found_eq]
  exact a.toWalk.search_eq (congrArg bare hm) before offset rest

theorem lexes {r : Pattern} (a : Modes r.program M) {m : M} (hm : a.entry m = 0)
    {lex : List Char → List Char} (hbegins : ∀ cs, lex cs <+: cs)
    (hlongest : ∀ cs, a.longest m cs = if lex cs = [] then none else some (lex cs)) :
    r.Lexes lex where
  search_eq before offset rest := by
    rw [a.search_eq hm, hlongest]
    split <;> rfl
  begins := hbegins

end Modes

end Program

end Rewind
