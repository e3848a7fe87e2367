import Rewind.Proofs.Scanner.Lifetime

/-! What runs cannot tell apart. A scanner that lets go of units and one that never does, but looks
ahead wherever it likes, give the same answers as long as the first one gets back to wherever it is
sent back to (`observed_first_eq_second`). Their rings, windows and unread texts differ all the way;
their positions differ in the marks alone. -/
namespace Rewind

/-- An action that only looks. -/
inductive Glance where
  | peek
  | lookAhead (n : Nat)
  | startsWith (cs : List Char)

def Glance.action : Glance → Action
  | peek => .peek
  | lookAhead n => .lookAhead n
  | startsWith cs => .startsWith cs

/-- A move of two runs side by side: made in both, or in one of them only. -/
inductive Paired where
  | both (m : Move) (keeps : m ≠ .act .release)
  | release
  | look (l : Glance)

namespace Paired

/-- The moves of the run that lets go of units. -/
def first : Paired → Option Move
  | both m _ => some m
  | release => some (.act .release)
  | look _ => none

/-- The moves of the run that looks ahead. -/
def second : Paired → Option Move
  | both m _ => some m
  | release => none
  | look l => some (.act l.action)

end Paired

def Answer.isRefusal : Answer → Bool
  | verdict (.error _) => true
  | attempt .stranded => true
  | _ => false

namespace Course

variable {σ : Type} [Machine σ]

/-- Whether moves get back to wherever they are sent back to, by checkpoint or by the end of an
attempt. -/
def isSmooth (ms : List Move) (c : Course σ) : Bool :=
  (transcript ms c).all fun r => !r.1.isRefusal

/-- What one of two runs gets from the moves that are made in both: the answers, what can be seen of
the state after each, and the checkpoint there, which counts the units consumed. -/
def observed (side : Paired → Option Move) :
    List Paired → Course σ → List (Answer × View × Checkpoint)
  | [], _ => []
  | .both m _ :: ms, c =>
    ((step m c).1, Machine.view (step m c).2.state, Machine.here (step m c).2.state) ::
      observed side ms (step m c).2
  | m :: ms, c => observed side ms (after (side m).toList c)

end Course

/-! ## Positions with other marks -/

namespace Position

/-- The position `q` is where `p` is; it has let go of nothing and has looked at no less. -/
structure Covers (q p : Position) : Prop where
  text_eq : q.text = p.text
  options_eq : q.options = p.options
  index_eq : q.index = p.index
  low_eq : q.low = 0
  high_le : p.high ≤ q.high

namespace Covers

variable {p q : Position}

theorem see (h : q.Covers p) (i : Nat) : (q.see i).Covers (p.see i) where
  text_eq := h.text_eq
  options_eq := h.options_eq
  index_eq := h.index_eq
  low_eq := h.low_eq
  high_le := by
    have := h.high_le
    simp only [Position.see, h.text_eq]
    omega

theorem goTo (h : q.Covers p) (i : Nat) : (q.goTo i).Covers (p.goTo i) :=
  { h with index_eq := rfl }

theorem pass (h : q.Covers p) (n : Nat) : (q.pass n).Covers (p.pass n) := by
  unfold Position.pass
  rw [h.index_eq]
  exact (h.see _).goTo _

theorem view_eq (h : q.Covers p) : Machine.view q = Machine.view p :=
  view_eq_of h.text_eq h.index_eq

theorem here_eq (h : q.Covers p) : q.here = p.here := by
  simp only [here, offset, startOf, h.text_eq, h.index_eq]

theorem release (h : q.Covers p) : q.Covers p.release.2 :=
  { h with }

theorem look (h : q.Covers p) (l : Glance) : (q.act l.action).2.Covers p := by
  have hsee : ∀ i, (q.see i).Covers p := fun i =>
    { h with high_le := Nat.le_trans h.high_le (Nat.le_max_left ..) }
  cases l with
  | peek | lookAhead n | startsWith cs => exact hsee _

/-- A checkpoint that can be gone to with a higher low mark and less looked at can be gone to. -/
theorem rewind (h : q.Covers p) {c : Checkpoint} (hok : (p.rewind c).1 = .ok ()) :
    (q.rewind c).1 = (p.rewind c).1 ∧ (q.rewind c).2.Covers (p.rewind c).2 := by
  obtain ⟨hlow, hknows⟩ := knows_of_rewind hok
  have hknows' : q.Knows c := hknows.of_le h.text_eq h.high_le
  rw [hknows.rewind_eq, hknows'.rewind_eq, if_pos hlow, if_pos (h.low_eq ▸ Nat.zero_le _)]
  exact ⟨rfl, h.goTo c.cursor⟩

/-- No action reads the marks, but to let go of units or to go to a checkpoint. -/
theorem act (h : q.Covers p) {a : Action} (ha : a ≠ .release)
    (hok : (p.act a).1.isRefusal = false) :
    (q.act a).1 = (p.act a).1 ∧ (q.act a).2.Covers (p.act a).2 := by
  have hrest : q.rest = p.rest := by rw [rest, rest, h.text_eq, h.index_eq]
  cases a with
  | release => exact absurd rfl ha
  | rewind c =>
    have hverdict : (p.rewind c).1 = .ok () := by
      cases hv : (p.rewind c).1 with
      | ok u => rfl
      | error e =>
        have hrefused : (p.act (.rewind c)).1 = .verdict (.error e) := congrArg Answer.verdict hv
        rw [hrefused] at hok
        cases hok
    obtain ⟨heq, hcovers⟩ := h.rewind hverdict
    exact ⟨congrArg Answer.verdict heq, hcovers⟩
  | accept c =>
    simp only [Position.act, accept, h.text_eq, h.index_eq]
    split
    · exact ⟨rfl, h.pass 1⟩
    · exact ⟨rfl, h.see _⟩
  | acceptText cs =>
    simp only [Position.act, acceptText, hrest, h.index_eq]
    split
    · exact ⟨rfl, h.pass _⟩
    · exact ⟨rfl, h.see _⟩
  | acceptBefore cs f | acceptKeyword cs =>
    simp only [Position.act, acceptBefore, acceptKeyword, acceptIf, hrest, h.text_eq, h.options_eq,
      h.index_eq]
    split
    · split
      · exact ⟨rfl, (h.pass _).see _⟩
      · exact ⟨rfl, h.see _⟩
    · exact ⟨rfl, h.see _⟩
  | acceptPattern r =>
    simp only [Position.act, acceptPattern, offset, startOf, h.text_eq, h.index_eq]
    split
    · exact ⟨rfl, h.pass _⟩
    · exact ⟨rfl, h⟩
  | next =>
    simp only [Position.act, next, advance, hrest, h.text_eq, h.index_eq]
    exact ⟨rfl, h.pass _⟩
  | advance n =>
    simp only [Position.act, advance, hrest]
    exact ⟨rfl, h.pass _⟩
  | takeWhile f | takeUntil f | takeSpace | takeWord =>
    simp only [Position.act, takeWhile, hrest, h.options_eq, h.index_eq]
    exact ⟨rfl, (h.pass _).see _⟩
  | here => exact ⟨congrArg Answer.place h.here_eq, h⟩
  | peek | lookAhead n =>
    simp only [Position.act, lookAhead, h.text_eq, h.index_eq]
    exact ⟨rfl, h.see _⟩
  | startsWith cs =>
    simp only [Position.act, startsWith, hrest, h.index_eq]
    exact ⟨rfl, h.see _⟩

theorem settle (h : q.Covers p) {start : Checkpoint} {outcome : Option Unit}
    (hok : (Answer.attempt (p.settle start outcome).1).isRefusal = false) :
    (q.settle start outcome).1 = (p.settle start outcome).1 ∧
      (q.settle start outcome).2.Covers (p.settle start outcome).2 := by
  cases outcome with
  | some a => exact ⟨rfl, h⟩
  | none =>
    simp only [Position.settle] at hok ⊢
    by_cases hlow : p.low ≤ start.cursor
    · rw [if_pos hlow, if_pos (h.low_eq ▸ Nat.zero_le _)]
      exact ⟨rfl, h.goTo start.cursor⟩
    · rw [if_neg hlow] at hok
      cases hok

end Covers

end Position

/-! ## Runs -/

namespace Course

/-- Both courses are inside of the same attempts. -/
structure Covers (e d : Course Position) : Prop where
  state : e.state.Covers d.state
  starts_eq : e.starts = d.starts

theorem Covers.step {d e : Course Position} (h : e.Covers d) {m : Move}
    (hm : m ≠ .act .release) (hok : (step m d).1.isRefusal = false) :
    (step m e).1 = (step m d).1 ∧ (step m e).2.Covers (step m d).2 := by
  cases m with
  | act a =>
    have ha : a ≠ .release := fun ha => hm (congrArg Move.act ha)
    obtain ⟨hanswer, hstate⟩ := h.state.act ha hok
    exact ⟨hanswer, hstate, h.starts_eq⟩
  | enter =>
    refine ⟨rfl, h.state, ?_⟩
    show e.state.here :: e.starts = d.state.here :: d.starts
    rw [h.state.here_eq, h.starts_eq]
  | leave accepted =>
    obtain ⟨p, starts⟩ := d
    obtain ⟨q, starts'⟩ := e
    obtain rfl : starts' = starts := h.starts_eq
    cases starts' with
    | nil => exact ⟨rfl, h⟩
    | cons start starts =>
      obtain ⟨hanswer, hstate⟩ := h.state.settle hok
      exact ⟨congrArg Answer.attempt hanswer, hstate, rfl⟩

theorem Covers.observed_eq {d e : Course Position} (h : e.Covers d) (ms : List Paired)
    (hsmooth : isSmooth (ms.filterMap Paired.first) d = true) :
    observed Paired.second ms e = observed Paired.first ms d := by
  induction ms generalizing d e with
  | nil => rfl
  | cons m ms ih =>
    -- a move of one side changes a mark at most, the low one of `d` or the high one of `e`
    cases m with
    | both m hm =>
      obtain ⟨hok, hrest⟩ := Bool.and_eq_true_iff.mp hsmooth
      obtain ⟨hanswer, hnext⟩ := h.step hm (Bool.not_eq_true' _ ▸ hok)
      have hhere : Machine.here (Course.step m e).2.state =
          Machine.here (Course.step m d).2.state := hnext.state.here_eq
      simp only [observed]
      rw [hanswer, hnext.state.view_eq, hhere, ih hnext hrest]
    | release => exact ih ⟨h.state.release, h.starts_eq⟩ hsmooth
    | look l => exact ih ⟨h.state.look l, h.starts_eq⟩ hsmooth

theorem Tracks.observed_eq {c : Course Scanner} {d : Course Position} (h : Tracks c d)
    (side : Paired → Option Move) (ms : List Paired) :
    observed side ms c = observed side ms d := by
  induction ms generalizing c d with
  | nil => rfl
  | cons m ms ih =>
    cases m with
    | both m hm =>
      obtain ⟨hanswer, hnext⟩ := h.step m
      have hhere : Machine.here (Course.step m c).2.state =
          Machine.here (Course.step m d).2.state := hnext.state.here_eq
      simp only [observed]
      rw [hanswer, hnext.state.view_eq, hhere, ih hnext]
    | release | look l => exact ih (h.after _)

/-- Runs that differ in what they let go of and what they only look at are told apart by no move that
both make. Each is handed out the same checkpoints, so those that the moves go back to are the own
ones of either run. -/
theorem observed_first_eq_second (text : List Char) (options : Options) (ms : List Paired)
    (hsmooth : isSmooth (ms.filterMap Paired.first) (begin (Scanner.ofText text options)) = true) :
    observed Paired.first ms (begin (Scanner.ofText text options)) =
      observed Paired.second ms (begin (Scanner.ofText text options)) := by
  have h := tracks_begin (Scanner.tracks_ofText text options)
  have hsame : (begin (Position.ofText text options)).Covers (begin (.ofText text options)) :=
    ⟨⟨rfl, rfl, rfl, rfl, Nat.le_refl _⟩, rfl⟩
  have hpositions : isSmooth (ms.filterMap Paired.first) (begin (Position.ofText text options)) =
      true := by
    rw [isSmooth, ← h.transcript_eq]
    exact hsmooth
  rw [h.observed_eq, h.observed_eq, hsame.observed_eq ms hpositions]

/-- One run lets go of the first unit before it saves a place, goes on and comes back twice; the other
keeps it and looks ahead on the way. -/
def roundTrip : List Paired :=
  [.look (.lookAhead 2), .both (.act .next) nofun, .release, .both (.act .here) nofun,
    .both .enter nofun, .look (.startsWith ['b']), .both (.act (.advance 2)) nofun,
    .both (.leave false) nofun, .both (.act .next) nofun, .look .peek,
    .both (.act (.rewind ⟨1, 2⟩)) nofun, .both (.act .next) nofun]

theorem observed_first_eq_second_roundTrip :
    isSmooth (roundTrip.filterMap Paired.first)
        (begin (Scanner.ofText ['é', 'b', 'c'] .standard)) = true ∧
      observed Paired.first roundTrip (begin (Scanner.ofText ['é', 'b', 'c'] .standard)) =
        observed Paired.second roundTrip (begin (Scanner.ofText ['é', 'b', 'c'] .standard)) ∧
      observed Paired.second roundTrip (begin (Scanner.ofText ['é', 'b', 'c'] .standard)) =
        [(.unit (some 'é'), ⟨2, ['b', 'c'], false⟩, ⟨1, 2⟩),
          (.place ⟨1, 2⟩, ⟨2, ['b', 'c'], false⟩, ⟨1, 2⟩),
          (.nothing, ⟨2, ['b', 'c'], false⟩, ⟨1, 2⟩),
          (.count 2, ⟨4, [], true⟩, ⟨3, 4⟩),
          (.attempt .rejected, ⟨2, ['b', 'c'], false⟩, ⟨1, 2⟩),
          (.unit (some 'b'), ⟨3, ['c'], false⟩, ⟨2, 3⟩),
          (.verdict (.ok ()), ⟨2, ['b', 'c'], false⟩, ⟨1, 2⟩),
          (.unit (some 'b'), ⟨3, ['c'], false⟩, ⟨2, 3⟩)] :=
  ⟨rfl, observed_first_eq_second _ _ _ rfl, rfl⟩

end Course

end Rewind
