import Rewind.Proofs.Scanner.Lifetime

/-! Attempts. A rule that fails is undone, whatever it did, unless it let go of units behind the place
where it began; then, and in no other case, it is left where it got to (`attempt_atomic_reached`).
Rules are written out as plans here, so that the units that they let go on their way can be told. -/
namespace Rewind

/-- A rule as a tree: what it does first, and how it goes on after each answer. It may look at the
scanner, and attempt rules inside of itself, to any depth; one of those that ended stranded is an
answer like any other. -/
inductive Plan : Type → Type 1 where
  | accept {α : Type} (a : α) : Plan α
  | fail {α : Type} : Plan α
  | read {α : Type} (next : Scanner → Plan α) : Plan α
  | act {α : Type} (a : Action) (next : Answer → Plan α) : Plan α
  | attempt {α β : Type} (inner : Plan β) (next : Attempt β → Plan α) : Plan α

namespace Plan

def run : {α : Type} → Plan α → Rule α
  | _, .accept a => fun s => (some a, s)
  | _, .fail => fun s => (none, s)
  | _, .read next => fun s => (next s).run s
  | _, .act a next => fun s => (next (s.act a).1).run (s.act a).2
  | _, .attempt inner next => fun s =>
    (next (s.attempt inner.run).1).run (s.attempt inner.run).2

/-- The indices at which a plan lets go of units, those inside of its attempts among them. -/
def releases : {α : Type} → Plan α → Scanner → List Nat
  | _, .accept _, _ => []
  | _, .fail, _ => []
  | _, .read next, s => (next s).releases s
  | _, .act a next, s =>
    Course.released (.act a) (Course.begin s) ++ (next (s.act a).1).releases (s.act a).2
  | _, .attempt inner next, s =>
    inner.releases s ++ (next (s.attempt inner.run).1).releases (s.attempt inner.run).2

end Plan

/-! ## Where a plan leads -/

/-- One position comes after another, and units were let go in between at some indices only. -/
structure Position.LeadsTo (p q : Position) (released : List Nat) : Prop where
  text_eq : q.text = p.text
  high_le : p.high ≤ q.high
  low_le_iff : ∀ i, q.low ≤ i ↔ p.low ≤ i ∧ ∀ n ∈ released, n ≤ i

namespace Position.LeadsTo

theorem of_marks {p q : Position} (htext : q.text = p.text) (hhigh : q.high = p.high)
    (hlow : q.low = p.low) : p.LeadsTo q [] where
  text_eq := htext
  high_le := Nat.le_of_eq hhigh.symm
  low_le_iff i := by simp [hlow]

theorem trans {p q r : Position} {ns ms : List Nat} (h : p.LeadsTo q ns) (h' : q.LeadsTo r ms) :
    p.LeadsTo r (ns ++ ms) where
  text_eq := h'.text_eq.trans h.text_eq
  high_le := Nat.le_trans h.high_le h'.high_le
  low_le_iff i := by rw [h'.low_le_iff, h.low_le_iff, List.forall_mem_append, and_assoc]

/-- What is known before is known after. -/
theorem knows {p q : Position} {ns : List Nat} (h : p.LeadsTo q ns) {c : Checkpoint}
    (hc : p.Knows c) : q.Knows c := hc.of_le h.text_eq h.high_le

end Position.LeadsTo

namespace Scanner

variable {α : Type} {s t : Scanner} {p q : Position}

theorem Tracks.leadsTo_act (h : Tracks s p) (a : Action) :
    p.LeadsTo (p.act a).2 (Course.released (.act a) (Course.begin s)) where
  text_eq := Course.text_step (.act a) (Course.begin p)
  high_le := Course.high_le_step (.act a) (Course.begin p)
  low_le_iff i := by
    have hsame := (Course.tracks_begin h).releases_eq [.act a]
    simp only [Course.releases, List.append_nil] at hsame
    rw [hsame]
    exact Course.low_step_le_iff (d := Course.begin p) h.low_le (.act a) i

/-- The place where an attempt began is known wherever its rule leads. -/
theorem Tracks.knows_start (h : Tracks s p) {released : List Nat} (hlead : p.LeadsTo q released) :
    q.Knows s.here := by
  rw [h.here_eq]
  exact hlead.knows h.knows_here

/-- That place can be gone back to unless units behind it were let go. -/
theorem Tracks.low_le_start_iff (h : Tracks s p) {released : List Nat}
    (hlead : p.LeadsTo q released) :
    q.low ≤ s.here.cursor ↔ ∀ n ∈ released, n ≤ s.consumed := by
  have hle : p.low ≤ s.here.cursor := by
    rw [h.here_eq]
    exact h.low_le
  rw [hlead.low_le_iff]
  exact ⟨fun hall => hall.2, fun hall => ⟨hle, hall⟩⟩

/-! ## The end of an attempt -/

/-- The end of a rule that failed depends on whether its start is gone to. -/
theorem settle_none (start : Checkpoint) (t : Scanner) :
    settle start (none : Option α) t =
      match t.rewind start with
      | (.ok (), u) => (.rejected, u)
      | (.error _, u) => (.stranded, u) := by
  rw [settle, Scan.bind_apply]
  obtain ⟨verdict, u⟩ := t.rewind start
  cases verdict <;> rfl

theorem Tracks.settle_rejected (h : Tracks t q) {start : Checkpoint} (hknows : q.Knows start)
    (hlow : q.low ≤ start.cursor) :
    ∃ u, Scanner.settle start (none : Option α) t = (.rejected, u) ∧
      Tracks u (q.goTo start.cursor) := by
  obtain ⟨u, hu, -, htracks⟩ := h.rewind_admitted hlow hknows.le_high hknows.offset_eq
  exact ⟨u, by rw [settle_none, hu], htracks⟩

theorem Tracks.settle_stranded (h : Tracks t q) {start : Checkpoint}
    (hlow : start.cursor < q.low) :
    Scanner.settle start (none : Option α) t = (.stranded, t) := by
  rw [settle_none, h.rewind_outside (.inl hlow)]

/-- An attempt leads where its rule leads, back to its start at most. -/
theorem Tracks.attempt (h : Tracks s p) {rule : Rule α} {released : List Nat}
    (ht : Tracks (rule s).2 q) (hlead : p.LeadsTo q released) :
    ∃ r, Tracks (s.attempt rule).2 r ∧ p.LeadsTo r released := by
  unfold Scanner.attempt
  cases hout : (rule s).1 with
  | some a => exact ⟨q, ht, hlead⟩
  | none =>
    by_cases hlow : q.low ≤ s.here.cursor
    · obtain ⟨u, hu, htracks⟩ := ht.settle_rejected (α := α) (h.knows_start hlead) hlow
      have hback : q.LeadsTo (q.goTo s.here.cursor) [] := .of_marks rfl rfl rfl
      refine ⟨q.goTo s.here.cursor, ?_, ?_⟩
      · rw [hu]
        exact htracks
      · have := hlead.trans hback
        rwa [List.append_nil] at this
    · refine ⟨q, ?_, hlead⟩
      rw [ht.settle_stranded (by omega)]
      exact ht

/-- Wherever a plan gets a scanner, it is at a position after the first one. -/
theorem Tracks.run (h : Tracks s p) (plan : Plan α) :
    ∃ q, Tracks (plan.run s).2 q ∧ p.LeadsTo q (plan.releases s) := by
  induction plan generalizing s p with
  | accept a => exact ⟨p, h, .of_marks rfl rfl rfl⟩
  | fail => exact ⟨p, h, .of_marks rfl rfl rfl⟩
  | read next ih => exact ih s h
  | act a next ih =>
    obtain ⟨-, htracks⟩ := h.act a
    obtain ⟨q, hq, hlead⟩ := ih (s.act a).1 htracks
    exact ⟨q, hq, (h.leadsTo_act a).trans hlead⟩
  | attempt inner next ihInner ihNext =>
    -- undone or not, what the inner plan let go of stays let go
    obtain ⟨q, hq, hlead⟩ := ihInner h
    obtain ⟨r, hr, hleadr⟩ := h.attempt hq hlead
    obtain ⟨u, hu, hleadu⟩ := ihNext (s.attempt inner.run).1 hr
    exact ⟨u, hu, hleadr.trans hleadu⟩

/-! ## Atomicity -/

/-- The scanner `t` is back where `s` was, after units have been let go at some indices. -/
structure IsBackAt (t s : Scanner) (released : List Nat) : Prop where
  /-- Both the cursor and the offset are those from before. -/
  here_eq : t.here = s.here
  view_eq : Machine.view t = Machine.view s
  replays : ∀ n, Course.transcript (List.replicate n (.act .next)) (Course.begin t) =
    Course.transcript (List.replicate n (.act .next)) (Course.begin s)
  /-- What could be gone to before can be gone to now, unless units behind it were let go. -/
  rewinds : ∀ c, (s.rewind c).1 = .ok () → (∀ n ∈ released, n ≤ c.cursor) →
    (t.rewind c).1 = .ok ()

/-- What becomes of an attempt, of whose rule is known at which indices it lets go of units. -/
structure AttemptsAtomically (s : Scanner) (rule : Rule α) (released : List Nat) : Prop where
  accepted : ∀ a, (rule s).1 = some a → s.attempt rule = (.accepted a, (rule s).2)
  rejected : (rule s).1 = none → (∀ n ∈ released, n ≤ s.consumed) →
    (s.attempt rule).1 = .rejected ∧ (s.attempt rule).2.IsBackAt s released
  stranded : (rule s).1 = none → (∃ n ∈ released, s.consumed < n) →
    s.attempt rule = (.stranded, (rule s).2)
  stranded_iff : (s.attempt rule).1 = .stranded ↔
    (rule s).1 = none ∧ ∃ n ∈ released, s.consumed < n
  /-- The start is refused for having been let go and for nothing else. -/
  refused : ∀ e, ((rule s).2.rewind s.here).1 = .error e →
    ∃ low high, e = .outOfRange s.consumed low high ∧ s.consumed < low

theorem Tracks.isBackAt (h : Tracks s p) {released : List Nat} (hlead : p.LeadsTo q released)
    (ht : Tracks t (q.goTo s.here.cursor)) : t.IsBackAt s released := by
  have hindex : s.here.cursor = p.index := h.cursor_eq
  have htext : (q.goTo s.here.cursor).text = p.text := hlead.text_eq
  refine
    { here_eq := ?_
      view_eq := ?_
      replays := ?_
      rewinds := ?_ }
  · rw [ht.here_eq]
    show Checkpoint.mk s.here.cursor (Text.width (q.text.take s.here.cursor)) = s.here
    rw [hindex, hlead.text_eq, h.here_eq]
    rfl
  · rw [ht.view_eq, h.view_eq]
    exact Position.view_eq_of htext hindex
  · intro n
    rw [ht.transcript_next, h.transcript_next, htext, ← hindex]
    rfl
  · intro c hok hreleased
    rw [(h.rewind c).1] at hok
    obtain ⟨hlow, hknows⟩ := Position.knows_of_rewind hok
    have hlater : (q.goTo s.here.cursor).Knows c := hlead.knows hknows |>.of_le rfl (Nat.le_refl _)
    have hlow' : (q.goTo s.here.cursor).low ≤ c.cursor :=
      (hlead.low_le_iff c.cursor).mpr ⟨hlow, hreleased⟩
    rw [(ht.rewind c).1, hlater.rewind_eq, if_pos hlow']

/-- A rule that failed is undone if its start was not let go. -/
theorem Tracks.attempt_rejected (h : Tracks s p) {rule : Rule α} {released : List Nat}
    (ht : Tracks (rule s).2 q) (hlead : p.LeadsTo q released) (hfail : (rule s).1 = none)
    (hall : ∀ n ∈ released, n ≤ s.consumed) :
    (s.attempt rule).1 = .rejected ∧ (s.attempt rule).2.IsBackAt s released := by
  have hlow := (h.low_le_start_iff hlead).mpr hall
  obtain ⟨u, hu, htracks⟩ := ht.settle_rejected (α := α) (h.knows_start hlead) hlow
  have hattempt : s.attempt rule = (.rejected, u) := by
    simp only [Scanner.attempt, hfail]
    exact hu
  rw [hattempt]
  exact ⟨rfl, h.isBackAt hlead htracks⟩

/-- It is left where it got to if its start was let go. -/
theorem Tracks.attempt_stranded (h : Tracks s p) {rule : Rule α} {released : List Nat}
    (ht : Tracks (rule s).2 q) (hlead : p.LeadsTo q released) (hfail : (rule s).1 = none)
    (hsome : ∃ n ∈ released, s.consumed < n) : s.attempt rule = (.stranded, (rule s).2) := by
  obtain ⟨n, hn, hlt⟩ := hsome
  have hgone : s.here.cursor < q.low := by
    apply Nat.lt_of_not_le
    intro hle
    have := (h.low_le_start_iff hlead).mp hle n hn
    omega
  simp only [Scanner.attempt, hfail]
  exact ht.settle_stranded hgone

theorem Tracks.attemptsAtomically (h : Tracks s p) {rule : Rule α} {released : List Nat}
    (ht : Tracks (rule s).2 q) (hlead : p.LeadsTo q released) :
    s.AttemptsAtomically rule released := by
  have haccepted : ∀ a, (rule s).1 = some a → s.attempt rule = (.accepted a, (rule s).2) := by
    intro a ha
    simp only [Scanner.attempt, ha]
    rfl
  refine
    { accepted := haccepted
      rejected := h.attempt_rejected ht hlead
      stranded := h.attempt_stranded ht hlead
      stranded_iff := ?_
      refused := ?_ }
  · constructor
    · intro hattempt
      cases hout : (rule s).1 with
      | some a =>
        rw [haccepted a hout] at hattempt
        cases hattempt
      | none =>
        refine ⟨rfl, ?_⟩
        apply Decidable.byContradiction
        intro hno
        have hall : ∀ n ∈ released, n ≤ s.consumed :=
          fun n hn => Nat.le_of_not_lt fun hlt => hno ⟨n, hn, hlt⟩
        rw [(h.attempt_rejected ht hlead hout hall).1] at hattempt
        cases hattempt
    · rintro ⟨hfail, hsome⟩
      rw [h.attempt_stranded ht hlead hfail hsome]
  · intro e he
    rw [(ht.rewind s.here).1, (h.knows_start hlead).rewind_eq] at he
    split at he
    · cases he
    · next hgone =>
      cases he
      exact ⟨_, _, rfl, Nat.lt_of_not_le hgone⟩

end Scanner

namespace Course

/-- The law of attempts, wherever moves get a scanner and whatever the rule. -/
theorem attempt_atomic_reached (text : List Char) (options : Options) (ms : List Move)
    {α : Type} (plan : Plan α) :
    (reached text options ms).AttemptsAtomically plan.run
        (plan.releases (reached text options ms)) ∧
      Attempt.message = "rule committed past its own start" := by
  have h := tracks_reached text options ms
  obtain ⟨q, hq, hlead⟩ := h.run plan
  exact ⟨h.attemptsAtomically hq hlead, rfl⟩

end Course

end Rewind
