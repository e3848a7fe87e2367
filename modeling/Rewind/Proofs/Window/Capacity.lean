import Mathlib.Algebra.GroupWithZero.Nat
import Mathlib.Data.Nat.Log
import Mathlib.Order.MinMax
import Rewind.Proofs.Ring.Layout
import Rewind.Window.Command

/-! How large the ring of a window gets. A ring is replaced only when it is full and one more unit
arrives, so after any run it has just the slots for the most units that were held at one time
(`performAll_grows_by_need`). The slots of units that were let go are used again. -/
namespace Rewind

def Event.isGrowth : Event → Bool
  | grew .. => true
  | _ => false

namespace Window

variable {α : Type}

def Command.pushes : Command α → Nat
  | push _ => 1
  | pushAll xs => xs.length
  | _ => 0

/-- The windows that a run comes by, the one that it starts from among them. -/
def stages (render : α → String) (cs : List (Command α)) (w : Window α) : List (Window α) :=
  w :: (performAll render cs w).map Prod.snd

def final (render : α → String) (cs : List (Command α)) (w : Window α) : Window α :=
  (stages render cs w).getLast (List.cons_ne_nil _ _)

/-- The most units that any of some windows holds. -/
def peak (ws : List (Window α)) : Nat := (ws.map held).foldr max 0

def growths (w : Window α) : List Event := w.journal.filter Event.isGrowth

/-- The events of growing from one bound to another, one for each time the slots are doubled. -/
def doublings (b c : Nat) : List Event :=
  (List.range' b (c - b)).map fun k => .grew (2 ^ (k + 1)) (2 ^ k)

/-- A run from a window whose first ring has `2 ^ bound` slots takes more only as it needs them. -/
structure GrowsByNeed (render : α → String) (bound : Nat) (cs : List (Command α))
    (w : Window α) : Prop where
  capacity_eq : (final render cs w).ring.capacity =
    max (2 ^ bound) (2 ^ Nat.clog 2 (peak (stages render cs w)))
  /-- A ring is never replaced by a smaller one. -/
  grows : (stages render cs w).Pairwise fun v u => v.ring.capacity ≤ u.ring.capacity
  /-- Letting go of units leaves the ring. -/
  release : ∀ v ∈ stages render cs w,
    (perform render .release v).2.ring.capacity = v.ring.capacity
  events_eq : (stages render cs w).flatMap growths = doublings bound (final render cs w).ring.bound
  messages_eq : ((stages render cs w).flatMap growths).map Event.message =
    (List.range' bound ((final render cs w).ring.bound - bound)).map fun k =>
      s!"token buffer grew to {2 ^ (k + 1)} slots ({2 ^ k} retained)"
  /-- No ring on the way has more slots than can be addressed. -/
  addressable : ∀ v ∈ stages render cs w, v.ring.bound ≤ Ring.largestBound

/-! ## One command -/

theorem held_le (w : Window α) : w.held ≤ 2 ^ w.ring.bound := by
  rw [← Ring.slotCount_eq_two_pow]
  exact w.ring.size_le

theorem clog_held_le (w : Window α) : Nat.clog 2 w.held ≤ w.ring.bound :=
  Nat.clog_le_of_le_pow w.held_le

theorem doublings_self (b : Nat) : doublings b b = [] := by
  rw [doublings, Nat.sub_self]
  rfl

theorem doublings_succ (b : Nat) : doublings b (b + 1) = [.grew (2 ^ (b + 1)) (2 ^ b)] := by
  rw [doublings, Nat.add_sub_cancel_left]
  rfl

theorem doublings_append {a b c : Nat} (hab : a ≤ b) (hbc : b ≤ c) :
    doublings a b ++ doublings b c = doublings a c := by
  have hsum : c - a = (b - a) + (c - b) := by omega
  have hstart : b = a + (b - a) := by omega
  unfold doublings
  rw [← List.map_append, hsum, ← List.range'_append_1, ← hstart]

/-- A window `v` that comes of `w` has the slots that it needs, or those of `w`, and tells how it came
by them. -/
structure Follows (v w : Window α) : Prop where
  bound_eq : v.ring.bound = max w.ring.bound (Nat.clog 2 v.held)
  growths_eq : v.growths = w.growths ++ doublings w.ring.bound v.ring.bound

/-- What keeps the number of slots and notes no growth is in order, whatever it does else. -/
theorem Follows.of_bound_eq {v w : Window α} (hbound : v.ring.bound = w.ring.bound)
    (hgrowths : v.growths = w.growths) : v.Follows w where
  bound_eq := by
    have := v.clog_held_le
    omega
  growths_eq := by rw [hbound, doublings_self, List.append_nil, hgrowths]

theorem held_push (w : Window α) (x : α) : (w.push x).held = w.held + 1 := by
  unfold push
  split <;> rfl

/-- A full ring is doubled, and the unit that did not fit shows that one of its size is too small. -/
theorem follows_push (w : Window α) (x : α) : (w.push x).Follows w := by
  unfold push
  split
  · exact .of_bound_eq rfl rfl
  · next hfull =>
    have hheld : w.held = 2 ^ w.ring.bound := by
      have hle := w.held_le
      have hcount := Ring.slotCount_eq_two_pow w.ring.bound
      simp only [held] at hle ⊢
      omega
    have hclog : Nat.clog 2 (w.held + 1) = w.ring.bound + 1 := by
      rw [hheld]
      apply Nat.le_antisymm
      · apply Nat.clog_le_of_le_pow
        have := Nat.two_pow_pos w.ring.bound
        rw [Nat.pow_succ]
        omega
      · exact (Nat.lt_clog_iff_pow_lt (by decide)).mpr (Nat.lt_succ_self _)
    refine ⟨?_, ?_⟩
    · show w.ring.bound + 1 = max w.ring.bound (Nat.clog 2 (w.held + 1))
      omega
    · show (w.journal ++ [Event.grew w.ring.double.capacity w.ring.size]).filter Event.isGrowth =
        w.growths ++ doublings w.ring.bound (w.ring.bound + 1)
      rw [doublings_succ, List.filter_append, growths, Ring.capacity_eq, ← hheld]
      rfl

theorem Follows.bound_le {v w : Window α} (h : v.Follows w) : w.ring.bound ≤ v.ring.bound := by
  rw [h.bound_eq]
  exact Nat.le_max_left ..

theorem Follows.trans {u v w : Window α} (huv : u.Follows v) (hvw : v.Follows w)
    (hheld : v.held ≤ u.held) : u.Follows w where
  bound_eq := by
    have hmono := Nat.clog_mono_right 2 hheld
    rw [huv.bound_eq, hvw.bound_eq]
    omega
  growths_eq := by
    rw [huv.growths_eq, hvw.growths_eq, List.append_assoc,
      doublings_append hvw.bound_le huv.bound_le]

theorem held_pushAll (w : Window α) (xs : List α) : (w.pushAll xs).held = w.held + xs.length := by
  induction xs generalizing w with
  | nil => rfl
  | cons x xs ih =>
    rw [List.length_cons, ← Nat.add_assoc, Nat.add_right_comm, ← w.held_push x]
    exact ih (w.push x)

theorem follows_pushAll (w : Window α) (xs : List α) : (w.pushAll xs).Follows w := by
  induction xs generalizing w with
  | nil => exact .of_bound_eq rfl rfl
  | cons x xs ih =>
    refine (ih (w.push x)).trans (w.follows_push x) ?_
    rw [held_pushAll]
    exact Nat.le_add_right ..

/-- Noting an event that is no growth is not seen among the growth events. -/
theorem filter_append_of_not_growth {es fs : List Event} (h : ∀ e ∈ fs, e.isGrowth = false) :
    (es ++ fs).filter Event.isGrowth = es.filter Event.isGrowth := by
  have hnone : fs.filter Event.isGrowth = [] :=
    List.filter_eq_nil_iff.mpr fun e he => by rw [h e he]; exact Bool.false_ne_true
  rw [List.filter_append, hnone, List.append_nil]

theorem growths_release (w : Window α) : w.release.growths = w.growths := by
  refine filter_append_of_not_growth fun e he => ?_
  split at he
  · cases he
  · rw [List.mem_singleton.mp he]
    rfl

/-- Every command leaves a window that follows, and adds no units but those that it pushes. -/
theorem follows_perform (render : α → String) (c : Command α) (w : Window α) :
    (perform render c w).2.Follows w ∧ (perform render c w).2.held ≤ w.held + c.pushes := by
  cases c with
  | push x =>
    simp only [perform, Command.pushes]
    exact ⟨w.follows_push x, Nat.le_of_eq (w.held_push x)⟩
  | pushAll xs =>
    simp only [perform, Command.pushes]
    exact ⟨w.follows_pushAll xs, Nat.le_of_eq (w.held_pushAll xs)⟩
  | release =>
    simp only [perform]
    exact ⟨.of_bound_eq rfl w.growths_release, Nat.le_trans (Nat.sub_le ..) (Nat.le_add_right ..)⟩
  | rewind i =>
    simp only [perform, Window.rewind]
    split
    · exact ⟨.of_bound_eq rfl (filter_append_of_not_growth (by simp [Event.isGrowth])),
        Nat.le_add_right ..⟩
    · exact ⟨.of_bound_eq rfl rfl, Nat.le_add_right ..⟩
  | admits i =>
    have hstay : (perform render (.admits i) w).2 = w := by
      simp only [perform]
      cases w.admits i <;> rfl
    rw [hstay]
    exact ⟨.of_bound_eq rfl rfl, Nat.le_add_right ..⟩
  | next | advance n | peek n | get i | mark | walk calls | newestFirst | describe | fork cs =>
    simp only [perform]
    exact ⟨.of_bound_eq rfl rfl, Nat.le_add_right ..⟩

/-! ## Runs -/

theorem stages_cons (render : α → String) (c : Command α) (cs : List (Command α))
    (w : Window α) :
    stages render (c :: cs) w = w :: stages render cs (perform render c w.quiet).2 := by
  simp only [stages, performAll, List.map_cons]

theorem final_cons (render : α → String) (c : Command α) (cs : List (Command α))
    (w : Window α) :
    final render (c :: cs) w = final render cs (perform render c w.quiet).2 := by
  simp only [final, stages_cons]
  exact List.getLast_cons _

/-- The window at the start of a run holds no more than the peak. -/
theorem held_le_peak (render : α → String) (cs : List (Command α)) (w : Window α) :
    w.held ≤ peak (stages render cs w) := Nat.le_max_left ..

theorem clog_max (m n : Nat) : Nat.clog 2 (max m n) = max (Nat.clog 2 m) (Nat.clog 2 n) :=
  (Nat.clog_monotone 2).map_max

/-- What a command leaves follows, the journal begun anew. -/
theorem follows_step (render : α → String) (c : Command α) (w : Window α) :
    (perform render c w.quiet).2.ring.bound =
        max w.ring.bound (Nat.clog 2 (perform render c w.quiet).2.held) ∧
      (perform render c w.quiet).2.growths =
        doublings w.ring.bound (perform render c w.quiet).2.ring.bound := by
  have h := (follows_perform render c w.quiet).1
  exact ⟨h.bound_eq, h.growths_eq⟩

theorem bound_le_of_mem_stages (render : α → String) (cs : List (Command α)) {w v : Window α}
    (hv : v ∈ stages render cs w) :
    w.ring.bound ≤ v.ring.bound ∧ v.ring.bound ≤ (final render cs w).ring.bound := by
  induction cs generalizing w v with
  | nil =>
    obtain rfl : v = w := List.mem_singleton.mp hv
    exact ⟨Nat.le_refl _, Nat.le_refl _⟩
  | cons c cs ih =>
    have hstep : w.ring.bound ≤ (perform render c w.quiet).2.ring.bound :=
      (follows_perform render c w.quiet).1.bound_le
    rw [final_cons]
    rw [stages_cons] at hv
    rcases List.mem_cons.mp hv with rfl | hv
    · exact ⟨Nat.le_refl _, Nat.le_trans hstep (ih List.mem_cons_self).2⟩
    · exact ⟨Nat.le_trans hstep (ih hv).1, (ih hv).2⟩

theorem pairwise_bound_stages (render : α → String) (cs : List (Command α)) (w : Window α) :
    (stages render cs w).Pairwise fun v u => v.ring.bound ≤ u.ring.bound := by
  induction cs generalizing w with
  | nil => exact List.pairwise_singleton ..
  | cons c cs ih =>
    rw [stages_cons]
    refine .cons (fun u hu => ?_) (ih _)
    exact (bound_le_of_mem_stages render (c :: cs)
      (by rw [stages_cons]; exact List.mem_cons_of_mem _ hu)).1

/-- The ring at the end of a run is that of its start, or one with as many slots as its peak takes. -/
theorem bound_final (render : α → String) (cs : List (Command α)) (w : Window α) :
    (final render cs w).ring.bound =
      max w.ring.bound (Nat.clog 2 (peak (stages render cs w))) := by
  induction cs generalizing w with
  | nil =>
    have hle := w.clog_held_le
    show w.ring.bound = max w.ring.bound (Nat.clog 2 (max w.held 0))
    rw [Nat.max_zero]
    omega
  | cons c cs ih =>
    have hstep := (follows_step render c w).1
    have hheld := Nat.clog_mono_right 2 (held_le_peak render cs (perform render c w.quiet).2)
    have hle := w.clog_held_le
    have hpeak : peak (stages render (c :: cs) w) =
        max w.held (peak (stages render cs (perform render c w.quiet).2)) := by
      rw [stages_cons]
      rfl
    rw [final_cons, ih, hpeak, clog_max]
    omega

/-- A run tells of each doubling once, in order. -/
theorem growths_stages (render : α → String) (cs : List (Command α)) (w : Window α) :
    (stages render cs w).flatMap growths =
      w.growths ++ doublings w.ring.bound (final render cs w).ring.bound := by
  induction cs generalizing w with
  | nil =>
    show w.growths ++ [] = w.growths ++ doublings w.ring.bound w.ring.bound
    rw [doublings_self]
  | cons c cs ih =>
    have hstep := (follows_step render c w).2
    have hle : w.ring.bound ≤ (perform render c w.quiet).2.ring.bound :=
      (follows_perform render c w.quiet).1.bound_le
    have hle' := (bound_le_of_mem_stages render cs
      (List.mem_cons_self (a := (perform render c w.quiet).2))).2
    rw [stages_cons, List.flatMap_cons, ih, final_cons, hstep, doublings_append hle hle']

/-- No more units are held than were there and were pushed. -/
theorem peak_le (render : α → String) (cs : List (Command α)) (w : Window α) :
    peak (stages render cs w) ≤ w.held + (cs.map Command.pushes).sum := by
  induction cs generalizing w with
  | nil => exact Nat.max_le.mpr ⟨Nat.le_refl _, Nat.zero_le _⟩
  | cons c cs ih =>
    have hstep : (perform render c w.quiet).2.held ≤ w.held + c.pushes :=
      (follows_perform render c w.quiet).2
    have hrest := ih (perform render c w.quiet).2
    rw [stages_cons, List.map_cons, List.sum_cons]
    refine Nat.max_le.mpr ⟨Nat.le_add_right .., Nat.le_trans hrest ?_⟩
    omega

/-- Whatever is asked of a window from its creation on, its ring has the slots for the most units that
it held at one time, or those that it was created with. -/
theorem performAll_grows_by_need (render : α → String) {bound : Nat}
    (hbound : bound ≤ Ring.largestBound) (cs : List (Command α))
    (hpushes : (cs.map Command.pushes).sum < 2 ^ Ring.largestBound) :
    ∃ w : Window α, create bound = .ok w ∧ GrowsByNeed render bound cs w := by
  have hcreate : (create bound : Except BoundError (Window α)) = .ok (ofRing (.empty bound)) := by
    simp only [create, Ring.create, if_pos hbound, Except.map]
  have hfinal := bound_final render cs (ofRing (.empty bound) : Window α)
  have hevents := growths_stages render cs (ofRing (.empty bound) : Window α)
  have hpeak := peak_le render cs (ofRing (.empty bound) : Window α)
  refine ⟨ofRing (.empty bound), hcreate, ?_⟩
  refine
    { capacity_eq := ?_
      grows := ?_
      release := fun v _ => by simp only [perform]; rfl
      events_eq := hevents
      messages_eq := by rw [hevents]; exact List.map_map
      addressable := ?_ }
  · rw [Ring.capacity_eq, hfinal]
    exact Monotone.map_max fun _ _ => Nat.pow_le_pow_right (by decide)
  · refine (pairwise_bound_stages render cs _).imp fun hle => ?_
    rw [Ring.capacity_eq, Ring.capacity_eq]
    exact Nat.pow_le_pow_right (by decide) hle
  · intro v hv
    have hlast := (bound_le_of_mem_stages render cs hv).2
    have hclog : Nat.clog 2 (peak (stages render cs (ofRing (.empty bound) : Window α))) ≤
        Ring.largestBound := by
      apply Nat.clog_le_of_le_pow
      have hzero : (ofRing (.empty bound) : Window α).held = 0 := rfl
      omega
    have hstart : (ofRing (.empty bound) : Window α).ring.bound = bound := rfl
    omega

/-- Units arrive, are let go of in part and arrive again across the seam. -/
def refill : List (Command Nat) :=
  [.pushAll [1, 2], .next, .release, .push 3, .push 4, .advance 2, .release, .pushAll [5, 6, 7],
    .rewind 3, .get 6]

/-- From one slot the ring grows twice, and the last three units take slots that were in use before. -/
theorem performAll_grows_by_need_refill :
    0 ≤ Ring.largestBound ∧ (refill.map Command.pushes).sum < 2 ^ Ring.largestBound ∧
      (∃ w : Window Nat, create 0 = .ok w ∧ GrowsByNeed toString 0 refill w) ∧
      (stages toString refill (ofRing (.empty 0))).map held = [0, 2, 2, 1, 2, 3, 3, 1, 4, 4, 4] ∧
      (stages toString refill (ofRing (.empty 0))).map (fun w => w.ring.capacity) =
        [1, 2, 2, 2, 2, 4, 4, 4, 4, 4, 4] ∧
      ((stages toString refill (ofRing (.empty 0))).flatMap growths).map Event.message =
        ["token buffer grew to 2 slots (1 retained)", "token buffer grew to 4 slots (2 retained)"] :=
  ⟨by decide, by decide, performAll_grows_by_need toString (by decide) refill (by decide), rfl, rfl,
    rfl⟩

end Window

end Rewind
