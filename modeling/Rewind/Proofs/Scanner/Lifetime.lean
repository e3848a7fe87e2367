import Rewind.Proofs.Scanner.Checkpoints

/-! How long a checkpoint is good for. The low mark is the highest index at which units were let go,
and the high mark never falls, so a checkpoint that was handed out at some point of a course can be
gone to later exactly if units were let go at its index or before it only
(`honours_reached`). -/
namespace Rewind

/-- What can be seen of a position depends on its text and its index alone. -/
theorem Position.view_eq_of {p q : Position} (htext : p.text = q.text)
    (hindex : p.index = q.index) : Machine.view p = Machine.view q := by
  show View.mk (Text.width (p.text.take p.index)) (p.text.drop p.index)
    (decide (p.index = p.text.length)) = _
  rw [htext, hindex]
  rfl

namespace Course

variable {σ : Type} [Machine σ]

/-- The index at which a move lets go of units. -/
def released : Move → Course σ → List Nat
  | .act .release, c => [(Machine.here c.state).cursor]
  | _, _ => []

/-- The indices at which moves let go of units, in order. -/
def releases : List Move → Course σ → List Nat
  | [], _ => []
  | m :: ms, c => released m c ++ releases ms (step m c).2

theorem released_of_ne {m : Move} (h : m ≠ .act .release) (c : Course σ) : released m c = [] := by
  unfold released
  split
  · exact absurd rfl h
  · rfl

/-- Units are let go at the index, which is not below the low mark. -/
theorem low_step_le_iff {d : Course Position} (h : d.state.low ≤ d.state.index) (m : Move)
    (i : Nat) : (step m d).2.state.low ≤ i ↔ d.state.low ≤ i ∧ ∀ n ∈ released m d, n ≤ i := by
  by_cases hm : m = .act .release
  · subst hm
    show d.state.index ≤ i ↔ d.state.low ≤ i ∧ ∀ n ∈ [d.state.index], n ≤ i
    rw [List.forall_mem_singleton]
    omega
  · have hlow : (step m d).2.state.low = d.state.low := by
      rcases step_cases m d with ⟨j, k, hstep⟩ | ⟨hrelease, -⟩
      · rw [hstep]
        rfl
      · exact absurd hrelease hm
    rw [hlow, released_of_ne hm]
    simp

theorem Tracks.low_after_le_iff {c : Course Scanner} {d : Course Position} (h : Tracks c d)
    (ms : List Move) (i : Nat) :
    (Course.after ms d).state.low ≤ i ↔ d.state.low ≤ i ∧ ∀ n ∈ releases ms d, n ≤ i := by
  induction ms generalizing c d with
  | nil => simp [Course.after, releases]
  | cons m ms ih =>
    rw [Course.after, ih (h.step m).2, low_step_le_iff h.state.low_le, releases, List.forall_mem_append,
      and_assoc]

theorem Tracks.releases_eq {c : Course Scanner} {d : Course Position} (h : Tracks c d)
    (ms : List Move) : releases ms c = releases ms d := by
  induction ms generalizing c d with
  | nil => rfl
  | cons m ms ih =>
    have hone : released m c = released m d := by
      by_cases hm : m = .act .release
      · subst hm
        exact congrArg (fun x : Checkpoint => [x.cursor]) h.state.here_eq
      · rw [released_of_ne hm, released_of_ne hm]
    rw [releases, releases, hone, ih (h.step m).2]

theorem knows_after {d : Course Position} {x : Checkpoint} (h : d.state.Knows x)
    (ms : List Move) : (after ms d).state.Knows x := by
  induction ms generalizing d with
  | nil => exact h
  | cons m ms ih => exact ih (knows_step h m)

end Course

namespace Scanner

/-- What a scanner `t` makes of the checkpoint that was handed out at `s`, after units have been let go
at some indices. -/
structure Honours (t s : Scanner) (released : List Nat) : Prop where
  ok_iff : (t.rewind s.here).1 = .ok () ↔ ∀ n ∈ released, n ≤ s.consumed
  /-- It is refused only for having been let go. -/
  refused : ∀ e, (t.rewind s.here).1 = .error e →
    ∃ low high, e = .outOfRange s.consumed low high ∧ s.consumed < low
  view_eq : (t.rewind s.here).1 = .ok () → Machine.view (t.rewind s.here).2 = Machine.view s
  /-- The same units are read again, at the same offsets. -/
  replays : (t.rewind s.here).1 = .ok () → ∀ n,
    Course.transcript (List.replicate n (.act .next)) (Course.begin (t.rewind s.here).2) =
      Course.transcript (List.replicate n (.act .next)) (Course.begin s)

end Scanner

namespace Course

theorem Tracks.honours {c : Course Scanner} {d : Course Position} (h : Tracks c d)
    (ms : List Move) : (Course.after ms c).state.Honours c.state (releases ms c) := by
  have htext : (Course.after ms d).state.text = d.state.text := text_after ms d
  have hlow : (Course.after ms d).state.low ≤ c.state.here.cursor ↔
      ∀ n ∈ releases ms c, n ≤ c.state.here.cursor := by
    rw [h.low_after_le_iff, h.releases_eq, h.state.here_eq]
    exact ⟨fun hle => hle.2, fun hle => ⟨h.state.low_le, hle⟩⟩
  have hknows := knows_after h.state.knows_here ms
  obtain ⟨hverdict, htracks⟩ := (h.after ms).state.rewind d.state.here
  rw [hknows.rewind_eq, ← h.state.here_eq] at hverdict htracks
  by_cases hin : (Course.after ms d).state.low ≤ c.state.here.cursor
  · rw [if_pos hin] at hverdict htracks
    refine
      { ok_iff := iff_of_true hverdict (hlow.mp hin)
        refused := ?_
        view_eq := fun _ => ?_
        replays := fun _ n => ?_ }
    · intro e he
      rw [hverdict] at he
      cases he
    · rw [htracks.view_eq, h.state.view_eq]
      exact Position.view_eq_of htext h.state.cursor_eq
    · rw [htracks.transcript_next, h.state.transcript_next, ← htext, ← h.state.cursor_eq]
      rfl
  · rw [if_neg hin] at hverdict htracks
    refine
      { ok_iff := iff_of_false (by rw [hverdict]; exact nofun) fun hle => hin (hlow.mpr hle)
        refused := ?_
        view_eq := fun hok => ?_
        replays := fun hok => ?_ }
    · intro e he
      rw [hverdict] at he
      cases he
      exact ⟨_, _, rfl, Nat.lt_of_not_le hin⟩
    · rw [hverdict] at hok
      cases hok
    · rw [hverdict] at hok
      cases hok

/-- A checkpoint that was handed out in the middle of a course is honoured in the end unless units
behind it have been let go since. -/
theorem honours_reached (text : List Char) (options : Options) (past future : List Move) :
    (step (.act .here) (after past (begin (Scanner.ofText text options)))).1 =
        .place (reached text options past).here ∧
      (reached text options (past ++ .act .here :: future)).Honours (reached text options past)
        (releases future (after past (begin (Scanner.ofText text options)))) := by
  have h := (tracks_begin (Scanner.tracks_ofText text options)).after past
  refine ⟨rfl, ?_⟩
  rw [reached, after_append]
  exact h.honours future

end Course

end Rewind
