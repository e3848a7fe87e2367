import Rewind.Proofs.Ring.Queue
import Rewind.Proofs.Ring.Traversal
import Rewind.Proofs.Window.Refinement

/-! Traversals of reachable rings and windows. The walk of a ring hands out what a queue would hold.
That of a window hands out the units of its log from the cursor on, and never one before the cursor
although it may still be held; when those are passed over does not show (`handsOut_reached`). -/
namespace Rewind

/-- What is done with a new ring leaves it with the elements that it leaves in a queue. -/
theorem Ring.toList_outcome {α : Type} (render : α → String) (bound : Nat) (as : List (Action α)) :
    (outcome (fun a r => perform render a.command r) as (empty bound)).Tidy ∧
      (outcome (fun a r => perform render a.command r) as (empty bound)).toList =
        outcome (boundedQueue (2 ^ bound)) as [] := by
  have hstep : ∀ (a : Action α) (r : Ring α) (xs : List α),
      r.Tidy ∧ r.bound = bound ∧ r.toList = xs →
      (perform render a.command r).2.Tidy ∧ (perform render a.command r).2.bound = bound ∧
        (perform render a.command r).2.toList = (boundedQueue (2 ^ bound) a xs).2 := by
    rintro a r xs ⟨hr, rfl, rfl⟩
    have h := (hr.perform_eq render a).2
    rwa [capacity_eq] at h
  have hlast := rel_outcome hstep as (s := empty bound) (t := []) ⟨tidy_empty bound, rfl, rfl⟩
  exact ⟨hlast.1, hlast.2.2⟩

namespace Window

variable {α : Type}

/-- What is done with a new window leaves it with the log and the cursor that it leaves a log. -/
theorem holds_outcome (render : α → String) (bound : Nat) (as : List (Action α)) :
    (outcome (fun a w => perform render a.command w.quiet) as (ofRing (.empty bound))).Holds
        (outcome Log.act as .empty).units ∧
      (outcome (fun a w => perform render a.command w.quiet) as (ofRing (.empty bound))).cursor =
        (outcome Log.act as .empty).cursor := by
  have hstep : ∀ (a : Action α) (w : Window α) (l : Log α),
      w.Holds l.units ∧ w.oldest = l.oldest ∧ w.cursor = l.cursor →
      (perform render a.command w.quiet).2.Holds (l.act a).2.units ∧
        (perform render a.command w.quiet).2.oldest = (l.act a).2.oldest ∧
        (perform render a.command w.quiet).2.cursor = (l.act a).2.cursor := by
    rintro a w l ⟨h, holdest, hcursor⟩
    exact (h.quiet.perform_eq holdest hcursor render a).2
  have hlast := rel_outcome hstep as (s := ofRing (.empty bound)) (t := .empty)
    ⟨holds_ofRing bound, rfl, rfl⟩
  exact ⟨hlast.1, hlast.2.2⟩

/-- The walk of a window hands out the units from the cursor on, and how those before it are passed
over is not seen. -/
structure Traverses (w : Window α) (l : Log α) : Prop where
  handsOut : w.walk.HandsOut (l.units.drop l.cursor)
  answers_defer : ∀ calls,
    ((w.ring.walkFrom 0).defer w.behind).answers calls = w.walk.answers calls

theorem behind_le (w : Window α) : w.behind ≤ w.ring.size := by
  have hle := w.cursor_le
  rw [behind]
  omega

theorem Holds.traverses {w : Window α} {l : Log α} (h : w.Holds l.units)
    (hcursor : w.cursor = l.cursor) : w.Traverses l where
  handsOut := by
    have hspans : w.walk.Spans w.toList := Ring.Walk.spans_walkFrom h.tidy w.behind_le
    rw [h.toList_eq, hcursor] at hspans
    exact hspans.handsOut
  answers_defer := (Ring.Walk.standsFor_walkFrom h.tidy w.behind_le).answers_eq

/-- Whatever is done with a ring or a window from its creation on, its walk hands out each element once:
that of the ring the elements of the queue, and that of the window the units from the cursor on. -/
theorem handsOut_reached (render : α → String) {bound : Nat} (hbound : bound ≤ Ring.largestBound) :
    (∃ r : Ring α, Ring.create bound = .ok r ∧ ∀ as : List (Ring.Action α),
      ((outcome (fun a r => Ring.perform render a.command r) as r).walkFrom 0).HandsOut
        (outcome (Ring.boundedQueue (2 ^ bound)) as [])) ∧
    ∃ w : Window α, create bound = .ok w ∧ ∀ as : List (Action α),
      (outcome (fun a w => perform render a.command w.quiet) as w).Traverses
        (outcome Log.act as .empty) := by
  have hcreate : (create bound : Except BoundError (Window α)) = .ok (ofRing (.empty bound)) := by
    simp only [create, Ring.create, if_pos hbound, Except.map]
  refine ⟨⟨.empty bound, if_pos hbound, ?_⟩, ofRing (.empty bound), hcreate, ?_⟩
  · intro as
    obtain ⟨htidy, hlist⟩ := Ring.toList_outcome render bound as
    have hspans := Ring.Walk.spans_walkFrom htidy (Nat.zero_le _)
    rw [List.drop_zero, hlist] at hspans
    exact hspans.handsOut
  · intro as
    obtain ⟨hholds, hcursor⟩ := holds_outcome render bound as
    exact hholds.traverses hcursor

/-- Growth, a release and a lap around the seam, after which two units are held before the cursor. -/
def lap : List (Action Nat) :=
  [.push 1, .push 2, .push 3, .next, .release, .push 4, .push 5, .advance 2]

/-- Both ends meet at the seam, and from there nothing comes although two more units are held. -/
theorem handsOut_reached_lap :
    1 ≤ Ring.largestBound ∧
    (∃ r : Ring Nat, Ring.create 1 = .ok r ∧
      ((outcome (fun a r => Ring.perform toString (Ring.Action.command a) r)
        [.push 7, .push 8, .pop, .push 9] r).walkFrom 0).HandsOut [8, 9]) ∧
    ∃ w : Window Nat, create 1 = .ok w ∧
      (outcome (fun a w => perform toString a.command w.quiet) lap w).Traverses
        ⟨[1, 2, 3, 4, 5], 1, 3⟩ ∧
      (outcome (fun a w => perform toString a.command w.quiet) lap w).walk.answers
          [.takeNewest, .length, .takeOldest, .takeNewest, .takeOldest] =
        [.item (some 5), .length 1, .item (some 4), .item none, .item none] := by
  have hbound : 1 ≤ Ring.largestBound := by decide
  obtain ⟨⟨r, hr, hring⟩, w, hw, hwindow⟩ := handsOut_reached (toString : Nat → String) hbound
  refine ⟨hbound, ⟨r, hr, hring [.push 7, .push 8, .pop, .push 9]⟩, w, hw, hwindow lap, ?_⟩
  obtain rfl : ofRing (.empty 1) = w := Except.ok.inj hw
  rfl

end Window

end Rewind
