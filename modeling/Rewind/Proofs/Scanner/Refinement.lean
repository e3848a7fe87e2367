import Rewind.Proofs.Scanner.Course
import Rewind.Proofs.Scanner.Operations

/-! Scanners refine positions. Whatever moves are made, inside of attempts or not, a scanner at the
start of a text and the position there give the same answers and show the same text to come
(`transcript_scanner_eq_position`). On the way the position keeps its text and its high mark never
falls, so it goes on to know the start of every attempt that is under way. -/
namespace Rewind

namespace Position

/-- To stay is to look at nothing and to go to the index. -/
theorem stays (p : Position) : ∃ i j, p = (p.see i).goTo j :=
  ⟨0, p.index, by rw [p.see_zero]; rfl⟩

/-- What an action can do to a position: look at units and move, or let go of those before it. -/
theorem act_cases (a : Action) (p : Position) :
    (∃ i j, (p.act a).2 = (p.see i).goTo j) ∨
      a = .release ∧ (p.act a).2 = { p with low := p.index } := by
  have hsee : ∀ i, ∃ j k, p.see i = (p.see j).goTo k := fun i => ⟨i, p.index, rfl⟩
  have hpass : ∀ n, ∃ j k, p.pass n = (p.see j).goTo k := fun n => ⟨_, _, rfl⟩
  have hboth : ∀ n i, ∃ j k, (p.pass n).see i = (p.see j).goTo k :=
    fun n i => ⟨_, _, p.pass_see n i⟩
  cases a with
  | release => exact .inr ⟨rfl, rfl⟩
  | accept c =>
    left
    simp only [act, accept]
    split
    · exact hpass _
    · exact hsee _
  | acceptText cs =>
    left
    simp only [act, acceptText]
    split
    · exact hpass _
    · exact hsee _
  | acceptBefore cs f | acceptKeyword cs =>
    left
    simp only [act, acceptBefore, acceptKeyword, acceptIf]
    split
    · split
      · exact hboth _ _
      · exact hsee _
    · exact hsee _
  | acceptPattern r =>
    left
    simp only [act, acceptPattern]
    split
    · exact hpass _
    · exact p.stays
  | rewind c =>
    left
    simp only [act, rewind]
    split
    · split
      · exact ⟨0, c.cursor, by rw [p.see_zero]; rfl⟩
      · exact p.stays
    · exact p.stays
  | next | advance n => exact .inl (hpass _)
  | takeWhile f | takeUntil f | takeSpace | takeWord => exact .inl (hboth _ _)
  | here => exact .inl p.stays
  | peek | lookAhead n | startsWith cs => exact .inl (hsee _)

/-- What the end of an attempt can do to a position. -/
theorem settle_cases (start : Checkpoint) (outcome : Option Unit) (p : Position) :
    ∃ i, (p.settle start outcome).2 = p.goTo i := by
  unfold settle
  split
  · exact ⟨p.index, rfl⟩
  · split
    · exact ⟨start.cursor, rfl⟩
    · exact ⟨p.index, rfl⟩

end Position

namespace Scanner

theorem Agree.map {α : Type} {x : α × Scanner} {y : α × Position} (h : Agree x y)
    (f : α → Answer) : Agree (x.map f id) (y.map f id) :=
  ⟨congrArg f h.1, h.2⟩

theorem Tracks.act {s : Scanner} {p : Position} (h : Tracks s p) (a : Action) :
    Agree (s.act a) (p.act a) := by
  cases a with
  | next => exact h.next.map _
  | peek => exact h.peek.map _
  | lookAhead n => exact (h.lookAhead n).map _
  | advance n => exact (h.advance n).map _
  | accept c => exact (h.accept c).map _
  | takeWhile f => exact (h.takeWhile f).map _
  | takeUntil f => exact (h.takeUntil f).map _
  | startsWith cs => exact (h.startsWith cs).map _
  | acceptText cs => exact (h.acceptText cs).map _
  | acceptBefore cs f => exact (h.acceptBefore cs f).map _
  | acceptKeyword cs => exact (h.acceptKeyword cs).map _
  | acceptPattern r => exact (h.acceptPattern r).map _
  | takeSpace => exact h.takeSpace.map _
  | takeWord => exact h.takeWord.map _
  | here => exact ⟨congrArg Answer.place h.here_eq, h⟩
  | rewind c => exact (h.rewind c).map _
  | release => exact h.release.map _

theorem Tracks.rest_eq {s : Scanner} {p : Position} (h : Tracks s p) : s.rest = p.rest := by
  rw [Scanner.rest, h.text_eq, h.offset_eq]
  exact Text.dropBytes_width_take ..

theorem Tracks.atEnd_eq {s : Scanner} {p : Position} (h : Tracks s p) : s.atEnd = p.atEnd := by
  have hiff : Text.width (p.text.take p.index) = Text.width p.text ↔ p.index = p.text.length := by
    constructor
    · intro he
      refine Text.width_take_inj h.index_le_length (Nat.le_refl _) (he.trans ?_)
      rw [List.take_length]
    · intro he
      rw [he, List.take_length]
  rw [Scanner.atEnd, h.text_eq, h.offset_eq]
  exact decide_eq_decide.mpr hiff

theorem Tracks.view_eq {s : Scanner} {p : Position} (h : Tracks s p) :
    Machine.view s = Machine.view p := by
  show View.mk s.offset s.rest s.atEnd = View.mk p.offset p.rest p.atEnd
  rw [h.offset_eq, h.rest_eq, h.atEnd_eq]

end Scanner

namespace Course

/-- What a move can do to a position. -/
theorem step_cases (m : Move) (d : Course Position) :
    (∃ i j, (step m d).2.state = (d.state.see i).goTo j) ∨
      m = .act .release ∧ (step m d).2.state = { d.state with low := d.state.index } := by
  obtain ⟨p, starts⟩ := d
  cases m with
  | act a =>
    rcases p.act_cases a with h | ⟨rfl, h⟩
    · exact .inl h
    · exact .inr ⟨rfl, h⟩
  | enter => exact .inl p.stays
  | leave accepted =>
    cases starts with
    | nil => exact .inl p.stays
    | cons start starts =>
      obtain ⟨i, hi⟩ := p.settle_cases start (if accepted then some () else none)
      exact .inl ⟨0, i, by rw [p.see_zero]; exact hi⟩

theorem text_step (m : Move) (d : Course Position) : (step m d).2.state.text = d.state.text := by
  rcases step_cases m d with ⟨i, j, h⟩ | ⟨-, h⟩
  · rw [h]
    rfl
  · rw [h]

theorem options_step (m : Move) (d : Course Position) :
    (step m d).2.state.options = d.state.options := by
  rcases step_cases m d with ⟨i, j, h⟩ | ⟨-, h⟩
  · rw [h]
    rfl
  · rw [h]

theorem high_le_step (m : Move) (d : Course Position) :
    d.state.high ≤ (step m d).2.state.high := by
  rcases step_cases m d with ⟨i, j, h⟩ | ⟨-, h⟩
  · rw [h]
    exact Nat.le_max_left ..
  · exact Nat.le_of_eq (congrArg Position.high h).symm

theorem text_after (ms : List Move) (d : Course Position) :
    (after ms d).state.text = d.state.text := by
  induction ms generalizing d with
  | nil => rfl
  | cons m ms ih => exact (ih _).trans (text_step m d)

theorem options_after (ms : List Move) (d : Course Position) :
    (after ms d).state.options = d.state.options := by
  induction ms generalizing d with
  | nil => rfl
  | cons m ms ih => exact (ih _).trans (options_step m d)

/-- A move keeps what a position knows. -/
theorem knows_step {d : Course Position} {x : Checkpoint} (h : d.state.Knows x) (m : Move) :
    (step m d).2.state.Knows x := h.of_le (text_step m d) (high_le_step m d)

/-- The scanner tracks the position, and both are inside of the same attempts, whose starts are
known. -/
structure Tracks (c : Course Scanner) (d : Course Position) : Prop where
  state : Scanner.Tracks c.state d.state
  starts_eq : c.starts = d.starts
  knows : ∀ x ∈ d.starts, d.state.Knows x

theorem tracks_begin {s : Scanner} {p : Position} (h : Scanner.Tracks s p) :
    Tracks (begin s) (begin p) :=
  ⟨h, rfl, fun _ hx => absurd hx List.not_mem_nil⟩

/-- One move keeps a scanner on its position and gets the same answer from both. -/
theorem Tracks.step {c : Course Scanner} {d : Course Position} (h : Tracks c d) (m : Move) :
    (step m c).1 = (step m d).1 ∧ Tracks (step m c).2 (step m d).2 := by
  have hknows : ∀ x ∈ d.starts, (Course.step m d).2.state.Knows x :=
    fun x hx => knows_step (h.knows x hx) m
  cases m with
  | act a =>
    obtain ⟨hanswer, htracks⟩ := h.state.act a
    exact ⟨hanswer, htracks, h.starts_eq, hknows⟩
  | enter =>
    refine ⟨rfl, h.state, ?_, ?_⟩
    · show c.state.here :: c.starts = d.state.here :: d.starts
      rw [h.state.here_eq, h.starts_eq]
    · intro x hx
      rcases List.mem_cons.mp hx with rfl | hx
      · exact h.state.knows_here
      · exact hknows x hx
  | leave accepted =>
    obtain ⟨s, starts⟩ := c
    obtain ⟨p, starts'⟩ := d
    obtain rfl : starts = starts' := h.starts_eq
    cases starts with
    | nil => exact ⟨rfl, h⟩
    | cons start starts =>
      obtain ⟨hanswer, htracks⟩ := h.state.settle (h.knows start List.mem_cons_self)
        (if accepted then some () else none)
      exact ⟨congrArg Answer.attempt hanswer, htracks, rfl,
        fun x hx => hknows x (List.mem_cons_of_mem _ hx)⟩

theorem Tracks.after {c : Course Scanner} {d : Course Position} (h : Tracks c d)
    (ms : List Move) : Tracks (after ms c) (after ms d) := by
  induction ms generalizing c d with
  | nil => exact h
  | cons m ms ih => exact ih (h.step m).2

theorem Tracks.transcript_eq {c : Course Scanner} {d : Course Position} (h : Tracks c d)
    (ms : List Move) : transcript ms c = transcript ms d := by
  induction ms generalizing c d with
  | nil => rfl
  | cons m ms ih =>
    obtain ⟨hanswer, hnext⟩ := h.step m
    simp only [transcript]
    rw [hanswer, hnext.state.view_eq, ih hnext]

/-- A scanner is a position in its text, as far as any moves can tell. -/
theorem transcript_scanner_eq_position (text : List Char) (options : Options) (ms : List Move) :
    transcript ms (begin (Scanner.ofText text options)) =
      transcript ms (begin (Position.ofText text options)) :=
  (tracks_begin (Scanner.tracks_ofText text options)).transcript_eq ms

theorem tracks_reached (text : List Char) (options : Options) (ms : List Move) :
    Scanner.Tracks (reached text options ms) (after ms (begin (.ofText text options))).state :=
  ((tracks_begin (Scanner.tracks_ofText text options)).after ms).state

theorem options_reached (text : List Char) (options : Options) (ms : List Move) :
    (reached text options ms).options = options :=
  (tracks_reached text options ms).options_eq.trans (options_after ms _)

end Course

end Rewind
