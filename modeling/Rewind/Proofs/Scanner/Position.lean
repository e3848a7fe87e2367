import Rewind.Scanner.Rule

/-! Positions: what a scanner amounts to. A position is an index into the list of the units of a
text. Beside it stand two marks: the lowest index that can be gone back to and the number of units
that have been looked at. There is no ring here, no window and no count of bytes. -/
namespace Rewind

@[ext]
structure Position where
  text : List Char
  options : Options
  index : Nat
  low : Nat
  high : Nat

namespace Position

def ofText (text : List Char) (options : Options) : Position := ⟨text, options, 0, 0, 0⟩

def rest (p : Position) : List Char := p.text.drop p.index

def startOf (p : Position) (i : Nat) : Nat := Text.width (p.text.take i)

def offset (p : Position) : Nat := p.startOf p.index

def atEnd (p : Position) : Bool := p.index = p.text.length

/-- The units before index `i` have been looked at, those that there are. -/
def see (p : Position) (i : Nat) : Position := { p with high := max p.high (min p.text.length i) }

def goTo (p : Position) (i : Nat) : Position := { p with index := i }

/-- Goes over units that are looked at on the way. -/
def pass (p : Position) (n : Nat) : Position := (p.see (p.index + n)).goTo (p.index + n)

def lookAhead (n : Nat) (p : Position) : Option Char × Position :=
  (p.text[p.index + n]?, p.see (p.index + n + 1))

def advance (n : Nat) (p : Position) : Nat × Position :=
  (min n p.rest.length, p.pass (min n p.rest.length))

def next (p : Position) : Option Char × Position := (p.text[p.index]?, (p.advance 1).2)

def accept (c : Char) (p : Position) : Option Char × Position :=
  if p.text[p.index]? = some c then (some c, p.pass 1) else (none, p.see (p.index + 1))

/-- Goes over the longest run of units that satisfy a condition, looking at the unit behind it. -/
def takeWhile (f : Char → Bool) (p : Position) : List Char × Position :=
  let run := p.rest.takeWhile f
  (run, (p.pass run.length).see (p.index + run.length + 1))

/-- The number of units in which two texts agree from the start. -/
def agreement : List Char → List Char → Nat
  | c :: cs, d :: ds => if c = d then agreement cs ds + 1 else 0
  | _, _ => 0

/-- The number of units that are looked at to tell whether the second text starts with the first:
all of them, or those up to the first difference. -/
def compared (cs ds : List Char) : Nat :=
  if cs <+: ds then cs.length else agreement cs ds + 1

def startsWith (cs : List Char) (p : Position) : Option Nat × Position :=
  (if cs <+: p.rest then some cs.length else none, p.see (p.index + compared cs p.rest))

def acceptText (cs : List Char) (p : Position) : Bool × Position :=
  if cs <+: p.rest then (true, p.pass cs.length)
  else (false, p.see (p.index + compared cs p.rest))

/-- Goes over a text if it comes next and a condition holds of the unit behind it, which is absent at
the end. -/
def acceptIf (cs : List Char) (f : Option Char → Bool) (p : Position) : Bool × Position :=
  if cs <+: p.rest then
    if f p.text[p.index + cs.length]? then
      (true, (p.pass cs.length).see (p.index + cs.length + 1))
    else (false, p.see (p.index + cs.length + 1))
  else (false, p.see (p.index + compared cs p.rest))

def acceptBefore (cs : List Char) (f : Char → Bool) : Position → Bool × Position :=
  acceptIf cs fun after => after.any f

def acceptKeyword (cs : List Char) (p : Position) : Bool × Position :=
  p.acceptIf cs fun after => !after.any p.options.word.matchesOne

/-- Goes to the unit at which a match ends. -/
def acceptPattern (r : Pattern) (p : Position) : Option Match × Position :=
  match r.applyAt? p.text p.offset with
  | some m => (some m, p.pass ((Text.takeBytes m.stop p.text).length - p.index))
  | none => (none, p)

def here (p : Position) : Checkpoint := ⟨p.index, p.offset⟩

def rewind (c : Checkpoint) (p : Position) : Except CheckpointError Unit × Position :=
  if p.low ≤ c.cursor ∧ c.cursor ≤ p.high then
    if c.offset = p.startOf c.cursor then (.ok (), p.goTo c.cursor)
    else (.error (.mismatch c.cursor c.offset (p.startOf c.cursor)), p)
  else (.error (.outOfRange c.cursor p.low p.high), p)

def release (p : Position) : Nat × Position := (p.index - p.low, { p with low := p.index })

/-- A rule that failed is undone unless its start has been let go. -/
def settle (start : Checkpoint) (outcome : Option Unit) (p : Position) : Attempt Unit × Position :=
  match outcome with
  | some a => (.accepted a, p)
  | none => if p.low ≤ start.cursor then (.rejected, p.goTo start.cursor) else (.stranded, p)

/-- A checkpoint names a unit that has been looked at, or the end of those, by its true offset. -/
structure Knows (p : Position) (c : Checkpoint) : Prop where
  le_high : c.cursor ≤ p.high
  offset_eq : c.offset = p.startOf c.cursor

/-! ## Units to come -/

theorem rest_cons {p : Position} {c : Char} (hc : p.text[p.index]? = some c) :
    p.rest = c :: (p.pass 1).rest := by
  obtain ⟨hlt, rfl⟩ := List.getElem?_eq_some_iff.mp hc
  exact List.drop_eq_getElem_cons hlt

theorem rest_nil {p : Position} (hc : p.text[p.index]? = none) : p.rest = [] :=
  List.drop_eq_nil_of_le (List.getElem?_eq_none_iff.mp hc)

theorem getElem?_rest (p : Position) (n : Nat) : p.rest[n]? = p.text[p.index + n]? :=
  List.getElem?_drop

theorem pass_add (p : Position) (m n : Nat) : (p.pass m).pass n = p.pass (m + n) := by
  ext1 <;> simp only [pass, see, goTo]
  · omega
  · omega

/-- Units that are passed need not be looked at before. -/
theorem see_pass (p : Position) {i n : Nat} (h : i ≤ p.index + n) :
    (p.see i).pass n = p.pass n := by
  ext1 <;> simp only [pass, see, goTo]
  omega

theorem see_pass_comm (p : Position) (i n : Nat) : (p.see i).pass n = (p.pass n).see i := by
  ext1 <;> simp only [pass, see, goTo]
  omega

theorem see_zero (p : Position) : p.see 0 = p := by
  ext1 <;> simp only [see]
  omega

theorem pass_see (p : Position) (n i : Nat) :
    (p.pass n).see i = (p.see (max (p.index + n) i)).goTo (p.index + n) := by
  ext1 <;> simp only [pass, see, goTo]
  omega

theorem see_see (p : Position) {i j : Nat} (h : i ≤ j) : (p.see i).see j = p.see j := by
  ext1 <;> simp only [see]
  omega

theorem advance_of_le {p : Position} {n : Nat} (h : n ≤ p.rest.length) :
    p.advance n = (n, p.pass n) := by
  rw [advance, Nat.min_eq_left h]

theorem advance_succ {p : Position} {c : Char} (hc : p.text[p.index]? = some c) (n : Nat) :
    p.advance (n + 1) = (((p.pass 1).advance n).1 + 1, ((p.pass 1).advance n).2) := by
  simp only [advance]
  rw [rest_cons hc, List.length_cons, Nat.add_min_add_right, pass_add, Nat.add_comm 1]

/-! ## Comparing texts -/

theorem compared_cons_self (c : Char) (cs ds : List Char) :
    compared (c :: cs) (c :: ds) = compared cs ds + 1 := by
  simp only [compared, agreement, List.cons_prefix_cons, true_and, if_true, List.length_cons]
  split <;> rfl

theorem not_prefix_of_head?_ne {c : Char} {cs ds : List Char} (h : ds.head? ≠ some c) :
    ¬c :: cs <+: ds := by
  rintro ⟨es, rfl⟩
  exact h rfl

theorem compared_of_head?_ne {c : Char} {cs ds : List Char} (h : ds.head? ≠ some c) :
    compared (c :: cs) ds = 1 := by
  rw [compared, if_neg (not_prefix_of_head?_ne h)]
  cases ds with
  | nil => rfl
  | cons d ds =>
    have hne : c ≠ d := fun he => h (congrArg some he.symm)
    rw [agreement, if_neg hne]

theorem compared_of_prefix {cs ds : List Char} (h : cs <+: ds) : compared cs ds = cs.length :=
  if_pos h

/-! ## Checkpoints -/

/-- What is known stays known while the text is the same and more of it is looked at. -/
theorem Knows.of_le {p q : Position} {c : Checkpoint} (h : p.Knows c) (htext : q.text = p.text)
    (hhigh : p.high ≤ q.high) : q.Knows c where
  le_high := Nat.le_trans h.le_high hhigh
  offset_eq := by
    rw [startOf, htext]
    exact h.offset_eq

/-- A known checkpoint is refused only if its unit has been let go. -/
theorem Knows.rewind_eq {p : Position} {c : Checkpoint} (h : p.Knows c) :
    p.rewind c =
      if p.low ≤ c.cursor then (.ok (), p.goTo c.cursor)
      else (.error (.outOfRange c.cursor p.low p.high), p) := by
  unfold rewind
  by_cases hlow : p.low ≤ c.cursor
  · rw [if_pos ⟨hlow, h.le_high⟩, if_pos h.offset_eq, if_pos hlow]
  · rw [if_neg fun hin => hlow hin.1, if_neg hlow]

/-- A checkpoint that is gone to is known. -/
theorem knows_of_rewind {p : Position} {c : Checkpoint} (h : (p.rewind c).1 = .ok ()) :
    p.low ≤ c.cursor ∧ p.Knows c := by
  unfold rewind at h
  split at h
  · next hin =>
    split at h
    · next heq => exact ⟨hin.1, hin.2, heq⟩
    · cases h
  · cases h

end Position

end Rewind
