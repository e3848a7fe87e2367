import Rewind.Proofs.Ring.Growth
import Rewind.Proofs.Trace
import Rewind.Proofs.Window.Log
import Rewind.Window.Command

/-! Windows refine logs. Beside the list of all units that ever arrived a log has two indices, that of
the oldest unit held and that of the next one to be read, and every command is a matter of these three.
A window of any first bound answers as a log does, whatever is asked of it, and the index of a unit
stays what it is through growth and release (`performAll_refines_log`). -/
namespace Rewind

/-! ## Traversal -/

/-- Taken from the front, the elements from a place on come in order, and nothing comes after them. -/
theorem Ring.Tidy.answers_takeOldest {α : Type} {r : Ring α} (hr : r.Tidy) (n k : Nat) :
    (r.walkFrom k).answers (List.replicate n .takeOldest) =
      (List.range n).map fun i => .item r.toList[k + i]? := by
  induction n generalizing k with
  | zero => rfl
  | succ n ih =>
    rw [List.replicate_succ, List.range_succ_eq_map, List.map_cons, List.map_map]
    by_cases hk : k < r.size
    · have hstep : (r.walkFrom k).takeOldest = (r.get? k, r.walkFrom (k + 1)) := if_pos hk
      rw [Walk.answers, Walk.answer, hstep, ih, ← hr.getElem?_toList]
      congr 1
      refine List.map_congr_left fun i _ => ?_
      show Walk.Answer.item r.toList[k + 1 + i]? = .item r.toList[k + (i + 1)]?
      rw [Nat.add_assoc, Nat.add_comm 1]
    · have hnone : ∀ i, r.toList[k + i]? = none := by
        intro i
        apply List.getElem?_eq_none
        rw [hr.length_toList]
        omega
      have hstep : (r.walkFrom k).takeOldest = (none, r.walkFrom k) := if_neg hk
      rw [Walk.answers, Walk.answer, hstep, ih, hnone 0]
      congr 1
      refine List.map_congr_left fun i _ => ?_
      show Walk.Answer.item r.toList[k + i]? = .item r.toList[k + (i + 1)]?
      rw [hnone i, hnone (i + 1)]

namespace Window

variable {α : Type}

/-- The commands on single units, on the cursor and on indices. -/
inductive Action (α : Type) where
  | push (x : α)
  | next
  | peek (n : Nat)
  | get (i : Nat)
  | advance (n : Nat)
  | mark
  | rewind (cursor : Nat)
  | admits (cursor : Nat)
  | release

def Action.command : Action α → Command α
  | push x => .push x
  | next => .next
  | peek n => .peek n
  | get i => .get i
  | advance n => .advance n
  | mark => .mark
  | rewind c => .rewind c
  | admits c => .admits c
  | release => .release

/-- All units that arrived, of which those from `oldest` on can be gone back to. -/
structure Log (α : Type) where
  units : List α
  oldest : Nat
  cursor : Nat

namespace Log

def empty : Log α := ⟨[], 0, 0⟩

def Reaches (l : Log α) (i : Nat) : Prop := l.oldest ≤ i ∧ i ≤ l.units.length

instance (l : Log α) (i : Nat) : Decidable (l.Reaches i) := instDecidableAnd

def refusal (l : Log α) (i : Nat) : Reply α := .refused (.outOfRange i l.oldest l.units.length)

def act : Action α → Log α → Reply α × Log α
  | .push x, l => (.done, { l with units := l.units ++ [x] })
  | .next, l =>
    match l.units[l.cursor]? with
    | some x => (.item (some x), { l with cursor := l.cursor + 1 })
    | none => (.item none, l)
  | .peek n, l => (.item l.units[l.cursor + n]?, l)
  | .get i, l => (.item (if l.oldest ≤ i then l.units[i]? else none), l)
  | .advance n, l =>
    let k := min n (l.units.length - l.cursor)
    (.count k, { l with cursor := l.cursor + k })
  | .mark, l => (.count l.cursor, l)
  | .rewind c, l => if l.Reaches c then (.done, { l with cursor := c }) else (l.refusal c, l)
  | .admits c, l => if l.Reaches c then (.done, l) else (l.refusal c, l)
  | .release, l => (.count (l.cursor - l.oldest), { l with oldest := l.cursor })

end Log

/-- The window holds the units of a log and has its indices. -/
structure IsLog (w : Window α) (l : Log α) : Prop where
  oldest_eq : w.oldest = l.oldest
  cursor_eq : w.cursor = l.cursor
  oldest_le : l.oldest ≤ l.cursor
  cursor_le : l.cursor ≤ l.units.length
  ahead_eq : w.ahead = l.units.length - l.cursor
  held_eq : w.held = l.units.length - l.oldest
  toList_eq : w.toList = l.units.drop l.cursor
  walk_eq : ∀ n, w.walk.answers (List.replicate n .takeOldest) =
    (List.range n).map fun i => .item l.units[l.cursor + i]?
  /-- A unit is found under the index at which it arrived. -/
  get?_eq : ∀ i, w.get? i = if l.oldest ≤ i then l.units[i]? else none
  /-- A refusal leaves everything as it was, and so does asking for one. -/
  refused : ∀ render c e, (perform render (.rewind c) w).1 = .refused e →
    (perform render (.rewind c) w).2 = w
  asked : ∀ render c, (perform render (.admits c) w).2 = w
  /-- Nothing stands in the way of one more unit as long as the indices fit a ring. -/
  stores : l.units.length < 2 ^ Ring.largestBound → ∀ x, w.ring.store x = .ok (w.push x).ring

/-! ## Single commands -/

/-- The step by step way of adding a unit leads to the ring of the window that has the unit. -/
theorem Holds.store_eq {w : Window α} {log : List α} (h : w.Holds log)
    (hlog : log.length < 2 ^ Ring.largestBound) (x : α) :
    w.ring.store x = .ok (w.push x).ring := by
  unfold Window.push
  split
  · next hfree => exact Ring.store_of_lt x hfree
  · next hfull =>
    refine h.tidy.store_of_full x hfull ?_
    have harrived : w.oldest + w.ring.size = log.length := h.arrived
    have hcount := Ring.slotCount_eq_two_pow w.ring.bound
    exact (Nat.pow_lt_pow_iff_right (by decide)).mp (show 2 ^ w.ring.bound < _ by omega)

theorem perform_rewind (render : α → String) (w : Window α) (c : Nat) :
    perform render (.rewind c) w = w.settle (w.rewind c) := by
  rw [perform]

theorem perform_admits (render : α → String) (w : Window α) (c : Nat) :
    perform render (.admits c) w = w.settle ((w.admits c).map fun _ => w) := by
  rw [perform]

/-- Asking changes nothing, whatever the answer. -/
theorem perform_admits_snd (render : α → String) (w : Window α) (c : Nat) :
    (perform render (.admits c) w).2 = w := by
  rw [perform_admits]
  cases w.admits c <;> rfl

theorem Holds.isLog {w : Window α} {log : List α} (h : w.Holds log) :
    w.IsLog ⟨log, w.oldest, w.cursor⟩ where
  oldest_eq := rfl
  cursor_eq := rfl
  oldest_le := w.oldest_le
  cursor_le := h.cursor_le
  ahead_eq := h.ahead_eq
  held_eq := by
    have harrived : w.oldest + w.ring.size = log.length := h.arrived
    show w.ring.size = log.length - w.oldest
    omega
  toList_eq := h.toList_eq
  walk_eq n := by
    have hle := w.oldest_le
    rw [walk, h.tidy.answers_takeOldest, h.kept]
    refine List.map_congr_left fun i _ => ?_
    rw [List.getElem?_drop, ← Nat.add_assoc, Nat.add_sub_cancel' hle]
  get?_eq := h.get?_eq
  refused render c e he := by
    rw [perform_rewind] at he ⊢
    cases hw : w.rewind c with
    | ok v =>
      rw [hw] at he
      cases he
    | error e' => rfl
  asked render := w.perform_admits_snd render
  stores := h.store_eq

/-- One command does to a window what it does to its log. -/
theorem Holds.perform_eq {w : Window α} {l : Log α} (h : w.Holds l.units)
    (holdest : w.oldest = l.oldest) (hcursor : w.cursor = l.cursor) (render : α → String)
    (a : Action α) :
    (perform render a.command w).1 = (l.act a).1 ∧
      (perform render a.command w).2.Holds (l.act a).2.units ∧
      (perform render a.command w).2.oldest = (l.act a).2.oldest ∧
      (perform render a.command w).2.cursor = (l.act a).2.cursor := by
  have harrived : w.arrived = l.units.length := h.arrived
  have hahead : w.ahead = l.units.length - l.cursor := by rw [h.ahead_eq, hcursor]
  have hle := h.cursor_le
  cases a with
  | push x =>
    simp only [Action.command, perform, Log.act]
    exact ⟨trivial, h.push x, (w.oldest_push x).trans holdest, (w.cursor_push x).trans hcursor⟩
  | next =>
    have hpeek : w.peek? 0 = l.units[l.cursor]? := by rw [h.peek?_eq, hcursor]; rfl
    simp only [Action.command, perform, Window.next, Log.act, hpeek]
    cases hx : l.units[l.cursor]? with
    | none =>
      have hend := List.getElem?_eq_none_iff.mp hx
      refine ⟨rfl, h.advance 1, holdest, ?_⟩
      show w.cursor + min 1 w.ahead = l.cursor
      omega
    | some x =>
      have hlt := (List.getElem?_eq_some_iff.mp hx).1
      refine ⟨rfl, h.advance 1, holdest, ?_⟩
      show w.cursor + min 1 w.ahead = l.cursor + 1
      omega
  | peek n =>
    simp only [Action.command, perform, Log.act, h.peek?_eq, hcursor]
    exact ⟨trivial, h, holdest, trivial⟩
  | get i =>
    simp only [Action.command, perform, Log.act, h.get?_eq, holdest]
    exact ⟨trivial, h, trivial, hcursor⟩
  | advance n =>
    simp only [Action.command, perform, Log.act, hahead]
    refine ⟨trivial, h.advance n, holdest, ?_⟩
    show w.cursor + min n w.ahead = _
    rw [hahead, hcursor]
  | mark =>
    simp only [Action.command, perform, Log.act, hcursor]
    exact ⟨trivial, h, holdest, trivial⟩
  | rewind c =>
    simp only [Action.command, perform_rewind, Log.act]
    by_cases hc : l.Reaches c
    · have hin : w.oldest ≤ c ∧ c ≤ w.arrived := by rw [holdest, harrived]; exact hc
      have hv : w.rewind c = .ok _ := dif_pos hin
      rw [hv, if_pos hc]
      exact ⟨rfl, h.rewind hv, holdest, rfl⟩
    · have hout : ¬(w.oldest ≤ c ∧ c ≤ w.arrived) := by rw [holdest, harrived]; exact hc
      have hv : w.rewind c = .error _ := dif_neg hout
      rw [hv, if_neg hc, holdest, harrived]
      exact ⟨rfl, h, holdest, hcursor⟩
  | admits c =>
    simp only [Action.command, perform_admits, Log.act]
    by_cases hc : l.Reaches c
    · have hin : w.oldest ≤ c ∧ c ≤ w.arrived := by rw [holdest, harrived]; exact hc
      have hv : w.admits c = .ok () := if_pos hin
      rw [hv, if_pos hc]
      exact ⟨rfl, h, holdest, hcursor⟩
    · have hout : ¬(w.oldest ≤ c ∧ c ≤ w.arrived) := by rw [holdest, harrived]; exact hc
      have hv : w.admits c = .error _ := if_neg hout
      rw [hv, if_neg hc, holdest, harrived]
      exact ⟨rfl, h, holdest, hcursor⟩
  | release =>
    simp only [Action.command, perform, Log.act, behind, holdest, hcursor]
    exact ⟨trivial, h.release, hcursor, hcursor⟩

/-! ## Runs -/

theorem performAll_map_command (render : α → String) (as : List (Action α)) (w : Window α) :
    performAll render (as.map Action.command) w =
      trace (fun a w => perform render a.command w.quiet) as w := by
  induction as generalizing w with
  | nil => rfl
  | cons a as ih => exact congrArg _ (ih _)

/-- A log only grows, and at its end. -/
theorem Log.units_act (a : Action α) (l : Log α) : ∃ more, (l.act a).2.units = l.units ++ more := by
  have hstay : ∃ more, l.units = l.units ++ more := ⟨[], (List.append_nil _).symm⟩
  cases a with
  | push x => exact ⟨[x], rfl⟩
  | next =>
    simp only [act]
    split <;> exact hstay
  | rewind c | admits c =>
    simp only [act]
    split <;> exact hstay
  | peek | get | advance | mark | release => exact hstay

/-- Whatever later state a run gets to, its window holds a log that the earlier one begins. -/
theorem Holds.holds_of_mem {w : Window α} {log : List α} (h : w.Holds log) (render : α → String)
    (as : List (Action α)) {s : Reply α × Window α}
    (hs : s ∈ performAll render (as.map Action.command) w) :
    ∃ more, s.2.Holds (log ++ more) := by
  induction as generalizing w log with
  | nil => cases hs
  | cons a as ih =>
    obtain ⟨-, hnext, -, -⟩ := h.quiet.perform_eq (l := ⟨log, w.oldest, w.cursor⟩) rfl rfl render a
    obtain ⟨more, hmore⟩ := Log.units_act a ⟨log, w.oldest, w.cursor⟩
    rw [hmore] at hnext
    rcases List.mem_cons.mp hs with rfl | hs
    · exact ⟨more, hnext⟩
    · obtain ⟨more', hlater⟩ := ih hnext hs
      exact ⟨more ++ more', List.append_assoc .. ▸ hlater⟩

/-- The index of a unit never changes: what is found under it once is all that is ever found. -/
theorem Holds.pairwise_get? {w : Window α} {log : List α} (h : w.Holds log) (render : α → String)
    (as : List (Action α)) :
    (performAll render (as.map Action.command) w).Pairwise fun s t =>
      ∀ i x y, s.2.get? i = some x → t.2.get? i = some y → x = y := by
  induction as generalizing w log with
  | nil => exact .nil
  | cons a as ih =>
    obtain ⟨-, hnext, -, -⟩ := h.quiet.perform_eq (l := ⟨log, w.oldest, w.cursor⟩) rfl rfl render a
    refine List.Pairwise.cons ?_ (ih hnext)
    intro t ht i x y hx hy
    obtain ⟨more, hlater⟩ := hnext.holds_of_mem render as ht
    -- both units stand at place `i` of their logs, and the later log begins with the earlier one
    rw [hnext.get?_eq, Option.ite_none_right_eq_some] at hx
    rw [hlater.get?_eq, Option.ite_none_right_eq_some] at hy
    have hlt := (List.getElem?_eq_some_iff.mp hx.2).1
    rw [List.getElem?_append_left hlt, hx.2] at hy
    exact Option.some.inj hy.2

/-- Whatever is asked of a window from its creation on, step by step it answers as a log does and is
that log. -/
theorem performAll_refines_log (render : α → String) {bound : Nat}
    (hbound : bound ≤ Ring.largestBound) (as : List (Action α)) :
    ∃ w : Window α, create bound = .ok w ∧ w.IsLog .empty ∧
      List.Forall₂ (fun s t => s.1 = t.1 ∧ s.2.IsLog t.2)
        (performAll render (as.map Action.command) w) (trace Log.act as .empty) ∧
      (performAll render (as.map Action.command) w).Pairwise fun s t =>
        ∀ i x y, s.2.get? i = some x → t.2.get? i = some y → x = y := by
  have hstart : (ofRing (.empty bound) : Window α).Holds [] := holds_ofRing bound
  have hcreate : (create bound : Except BoundError (Window α)) = .ok (ofRing (.empty bound)) := by
    simp only [create, Ring.create, if_pos hbound, Except.map]
  have hsteps := forall₂_trace (g := Log.act)
    (R := fun w l => w.Holds l.units ∧ w.oldest = l.oldest ∧ w.cursor = l.cursor)
    (f := fun a w => perform render a.command w.quiet)
    (fun a _ _ ⟨h, holdest, hcursor⟩ => h.quiet.perform_eq holdest hcursor render a) as
    (s := ofRing (.empty bound)) (t := .empty) ⟨hstart, rfl, rfl⟩
  refine ⟨ofRing (.empty bound), hcreate, hstart.isLog, ?_, hstart.pairwise_get? render as⟩
  rw [performAll_map_command]
  refine hsteps.imp ?_
  rintro ⟨reply, w⟩ ⟨reply', ⟨units, oldest, cursor⟩⟩ ⟨hreply, h, rfl, rfl⟩
  exact ⟨hreply, h.isLog⟩

/-- From a ring of one slot: growth, a release, growth across the seam, and indices that stay. -/
theorem performAll_refines_log_grown :
    0 ≤ Ring.largestBound ∧ ∃ w : Window Nat, create 0 = .ok w ∧ w.IsLog .empty ∧
      List.Forall₂ (fun s t => s.1 = t.1 ∧ s.2.IsLog t.2)
        (performAll toString
          ([.push 7, .push 8, .next, .release, .push 9, .push 5, .get 0, .get 3, .rewind 0,
            .advance 18446744073709551615].map Action.command) w)
        [(.done, ⟨[7], 0, 0⟩), (.done, ⟨[7, 8], 0, 0⟩), (.item (some 7), ⟨[7, 8], 0, 1⟩),
          (.count 1, ⟨[7, 8], 1, 1⟩), (.done, ⟨[7, 8, 9], 1, 1⟩), (.done, ⟨[7, 8, 9, 5], 1, 1⟩),
          (.item none, ⟨[7, 8, 9, 5], 1, 1⟩), (.item (some 5), ⟨[7, 8, 9, 5], 1, 1⟩),
          (.refused (.outOfRange 0 1 4), ⟨[7, 8, 9, 5], 1, 1⟩),
          (.count 3, ⟨[7, 8, 9, 5], 1, 4⟩)] ∧
      (performAll toString
          ([.push 7, .push 8, .next, .release, .push 9, .push 5, .get 0, .get 3, .rewind 0,
            .advance 18446744073709551615].map Action.command) w).Pairwise fun s t =>
        ∀ i x y, s.2.get? i = some x → t.2.get? i = some y → x = y :=
  ⟨by decide, performAll_refines_log toString (by decide) _⟩

end Window

end Rewind
