import Mathlib.Data.List.Basic
import Rewind.Ring.Lemmas
import Rewind.Ring.Walk

/-! Traversals hand out each element once. Whatever is asked of a walk in whatever order, the elements
taken from its two ends and those still to come make up the list that it set out with
(`Spans.account`), so that neither end gets past the other (`Spans.handsOut`). A walk may also be given
elements to pass over, which it does only when the oldest element is asked for; it answers as a walk
that sets out behind them (`StandsFor.answers_eq`). -/
namespace Rewind.Ring

variable {α : Type}

namespace Walk

def Answer.element? : Answer α → Option α
  | .item x => x
  | _ => none

/-- The walk that is left after some calls. -/
def after (w : Walk α) : List Call → Walk α
  | [] => w
  | c :: cs => (w.answer c).2.after cs

/-- The elements that came in answer to the calls of one kind, as they came. -/
def taken (w : Walk α) (kind : Call) (calls : List Call) : List α :=
  (calls.zip (w.answers calls)).filterMap fun p => if p.1 = kind then p.2.element? else none

def takenCount (w : Walk α) (calls : List Call) : Nat :=
  (w.taken .takeOldest calls).length + (w.taken .takeNewest calls).length

/-- What a walk answers when nothing is left. -/
def Call.spent : Call → Answer α
  | takeOldest => .item none
  | takeNewest => .item none
  | length => .length 0
  | lengthBounds => .lengthBounds 0 0

/-- The walk hands out the elements of a list, each once, whatever calls are made in whatever order. -/
structure HandsOut (w : Walk α) (xs : List α) : Prop where
  oldest_eq : ∀ calls, w.taken .takeOldest calls =
    xs.take (w.taken .takeOldest calls).length
  newest_eq : ∀ calls, w.taken .takeNewest calls =
    xs.reverse.take (w.taken .takeNewest calls).length
  takenCount_le : ∀ calls, w.takenCount calls ≤ xs.length
  length_eq : ∀ calls, ((w.after calls).answer .length).1 =
    .length (xs.length - w.takenCount calls)
  lengthBounds_eq : ∀ calls, ((w.after calls).answer .lengthBounds).1 =
    .lengthBounds (xs.length - w.takenCount calls) (xs.length - w.takenCount calls)
  takeOldest_iff : ∀ calls, ((w.after calls).answer .takeOldest).1 = .item none ↔
    w.takenCount calls = xs.length
  takeNewest_iff : ∀ calls, ((w.after calls).answer .takeNewest).1 = .item none ↔
    w.takenCount calls = xs.length
  /-- What has come to its end stays there. -/
  spent : ∀ calls, w.takenCount calls = xs.length →
    ∀ more, (w.after calls).answers more = more.map Call.spent
  /-- The ends never cross, so that the elements between them can be counted. -/
  front_le_back : ∀ calls, (w.after calls).front ≤ (w.after calls).back

/-- The elements of a list are still to come. -/
structure Spans (w : Walk α) (xs : List α) : Prop where
  tidy : w.ring.Tidy
  front_le : w.front ≤ w.back
  back_le : w.back ≤ w.ring.size
  toList_eq : (w.ring.toList.take w.back).drop w.front = xs

/-! ## Single calls -/

namespace Spans

variable {w : Walk α} {xs : List α} {x : α}

theorem remaining_eq (h : w.Spans xs) : w.remaining = xs.length := by
  have hsize := h.tidy.length_toList
  have hback := h.back_le
  rw [← h.toList_eq, List.length_drop, List.length_take, hsize, Nat.min_eq_left hback]
  rfl

theorem takeOldest_nil (h : w.Spans []) : w.takeOldest = (none, w) := by
  have hzero : w.back - w.front = 0 := h.remaining_eq
  exact if_neg (by omega)

theorem takeNewest_nil (h : w.Spans []) : w.takeNewest = (none, w) := by
  have hzero : w.back - w.front = 0 := h.remaining_eq
  exact if_neg (by omega)

theorem takeOldest_cons (h : w.Spans (x :: xs)) :
    w.takeOldest.1 = some x ∧ w.takeOldest.2.Spans xs := by
  have hcount : w.back - w.front = xs.length + 1 := h.remaining_eq
  have hlt : w.front < w.back := by omega
  have htake : w.takeOldest = (w.ring.get? w.front, { w with front := w.front + 1 }) := if_pos hlt
  rw [htake]
  refine ⟨?_, h.tidy, hlt, h.back_le, ?_⟩
  · have hhead := congrArg List.head? h.toList_eq
    rwa [List.head?_drop, List.getElem?_take_of_lt hlt, h.tidy.getElem?_toList] at hhead
  · have htail := congrArg List.tail h.toList_eq
    rwa [List.tail_drop] at htail

theorem takeNewest_concat (h : w.Spans (xs ++ [x])) :
    w.takeNewest.1 = some x ∧ w.takeNewest.2.Spans xs := by
  have hsize := h.tidy.length_toList
  have hback := h.back_le
  have hcount : w.back - w.front = xs.length + 1 := by
    have hlen := h.remaining_eq
    rwa [List.length_append] at hlen
  have hlt : w.front < w.back := by omega
  have htake : w.takeNewest = (w.ring.get? (w.back - 1), { w with back := w.back - 1 }) :=
    if_pos hlt
  rw [htake]
  refine ⟨?_, h.tidy, ?_, ?_, ?_⟩
  · have hlast := congrArg (fun ys => ys[xs.length]?) h.toList_eq
    have hplace : w.front + xs.length = w.back - 1 := by omega
    have hbefore : w.back - 1 < w.back := by omega
    simp only [List.getElem?_drop, List.getElem?_concat_length, hplace,
      List.getElem?_take_of_lt hbefore, h.tidy.getElem?_toList] at hlast
    exact hlast
  · show w.front ≤ w.back - 1
    omega
  · show w.back - 1 ≤ w.ring.size
    omega
  · have hinit := congrArg List.dropLast h.toList_eq
    rw [List.dropLast_concat] at hinit
    rw [← hinit]
    show (w.ring.toList.take (w.back - 1)).drop w.front = _
    rw [List.dropLast_eq_take, List.length_drop, List.length_take, hsize, Nat.min_eq_left hback,
      List.take_drop, List.take_take]
    congr 2
    omega

/-! ## Any number of calls -/

theorem taken_cons (w : Walk α) (kind c : Call) (cs : List Call) :
    w.taken kind (c :: cs) =
      (if c = kind then (w.answer c).1.element? else none).toList ++
        (w.answer c).2.taken kind cs := by
  simp only [taken, answers, List.zip_cons_cons, List.filterMap_cons]
  cases (if c = kind then (w.answer c).1.element? else none) <;> rfl

/-- What was taken from the front, what is still to come, and what was taken from the back, the last
first, are the elements that the walk set out with. -/
theorem account (h : w.Spans xs) (calls : List Call) :
    ∃ rest, (w.after calls).Spans rest ∧
      w.taken .takeOldest calls ++ rest ++ (w.taken .takeNewest calls).reverse = xs := by
  induction calls generalizing w xs with
  | nil => exact ⟨xs, h, List.append_nil xs⟩
  | cons c cs ih =>
    simp only [taken_cons, after]
    cases c with
    | takeOldest =>
      cases xs with
      | nil =>
        simp only [answer, h.takeOldest_nil]
        exact ih h
      | cons x xs =>
        obtain ⟨hx, hnext⟩ := h.takeOldest_cons
        obtain ⟨rest, hrest, heq⟩ := ih hnext
        refine ⟨rest, hrest, ?_⟩
        simp only [answer, Answer.element?, hx]
        exact congrArg (x :: ·) heq
    | takeNewest =>
      rcases List.eq_nil_or_concat' xs with rfl | ⟨ys, x, rfl⟩
      · simp only [answer, h.takeNewest_nil]
        exact ih h
      · obtain ⟨hx, hnext⟩ := h.takeNewest_concat
        obtain ⟨rest, hrest, heq⟩ := ih hnext
        refine ⟨rest, hrest, ?_⟩
        simp only [answer, Answer.element?, hx]
        rw [← heq]
        simp
    | length | lengthBounds => exact ih h

theorem answers_spent (h : w.Spans []) (calls : List Call) :
    w.answers calls = calls.map Call.spent := by
  have hzero : w.remaining = 0 := h.remaining_eq
  induction calls with
  | nil => rfl
  | cons c cs ih =>
    cases c <;>
      simp only [answers, answer, h.takeOldest_nil, h.takeNewest_nil, hzero, ih, List.map_cons,
        Call.spent]

theorem takeOldest_eq_none_iff (h : w.Spans xs) : w.takeOldest.1 = none ↔ xs = [] := by
  cases xs with
  | nil => simp [h.takeOldest_nil]
  | cons x xs => simp [h.takeOldest_cons.1]

theorem takeNewest_eq_none_iff (h : w.Spans xs) : w.takeNewest.1 = none ↔ xs = [] := by
  rcases List.eq_nil_or_concat' xs with rfl | ⟨ys, x, rfl⟩
  · simp [h.takeNewest_nil]
  · simp [h.takeNewest_concat.1]

theorem handsOut (h : w.Spans xs) : w.HandsOut xs := by
  have hcount : ∀ calls, ∃ rest, (w.after calls).Spans rest ∧
      w.takenCount calls + rest.length = xs.length := by
    intro calls
    obtain ⟨rest, hrest, heq⟩ := h.account calls
    refine ⟨rest, hrest, ?_⟩
    rw [← heq, takenCount]
    simp only [List.length_append, List.length_reverse]
    omega
  have hleft : ∀ calls, (w.after calls).remaining = xs.length - w.takenCount calls := by
    intro calls
    obtain ⟨rest, hrest, hsum⟩ := hcount calls
    rw [hrest.remaining_eq]
    omega
  refine
    { oldest_eq := ?_
      newest_eq := ?_
      takenCount_le := ?_
      length_eq := fun calls => congrArg Answer.length (hleft calls)
      lengthBounds_eq := fun calls =>
        congrArg₂ Answer.lengthBounds (hleft calls) (hleft calls)
      takeOldest_iff := ?_
      takeNewest_iff := ?_
      spent := ?_
      front_le_back := ?_ }
  · intro calls
    obtain ⟨rest, -, heq⟩ := h.account calls
    rw [← heq, List.append_assoc, List.take_left]
  · intro calls
    obtain ⟨rest, -, heq⟩ := h.account calls
    rw [← heq, List.reverse_append, List.reverse_reverse, List.take_left]
  · intro calls
    obtain ⟨rest, -, hsum⟩ := hcount calls
    omega
  · intro calls
    obtain ⟨rest, hrest, hsum⟩ := hcount calls
    simp only [answer, Answer.item.injEq, hrest.takeOldest_eq_none_iff,
      ← List.length_eq_zero_iff]
    omega
  · intro calls
    obtain ⟨rest, hrest, hsum⟩ := hcount calls
    simp only [answer, Answer.item.injEq, hrest.takeNewest_eq_none_iff,
      ← List.length_eq_zero_iff]
    omega
  · intro calls hall more
    obtain ⟨rest, hrest, hsum⟩ := hcount calls
    obtain rfl : rest = [] := List.length_eq_zero_iff.mp (by omega)
    exact hrest.answers_spent more
  · intro calls
    obtain ⟨rest, hrest, -⟩ := hcount calls
    exact hrest.front_le

end Spans

/-- A walk that sets out behind the first elements spans the others. -/
theorem spans_walkFrom {r : Ring α} (hr : r.Tidy) {k : Nat} (hk : k ≤ r.size) :
    (r.walkFrom k).Spans (r.toList.drop k) where
  tidy := hr
  front_le := hk
  back_le := Nat.le_refl _
  toList_eq := by
    show (r.toList.take r.size).drop k = _
    rw [← hr.length_toList, List.take_length]

/-! ## Elements to pass over -/

/-- The element behind `n` others, which are passed over. Nothing comes if there are not that many. -/
def takeNth (w : Walk α) : Nat → Option α × Walk α
  | 0 => w.takeOldest
  | n + 1 =>
    match w.takeOldest with
    | (none, v) => (none, v)
    | (some _, v) => v.takeNth n

/-- A walk that is to pass over some elements and puts this off until its oldest one is asked for. -/
structure Deferred (α : Type) where
  walk : Walk α
  owed : Nat

/-- Puts off passing over the first `n` elements that are still to come. -/
def defer (w : Walk α) (n : Nat) : Deferred α := ⟨w, n⟩

namespace Deferred

def remaining (d : Deferred α) : Nat := d.walk.remaining - d.owed

/-- From the back elements are taken only while there are more than are to be passed over. -/
def answer (d : Deferred α) : Call → Answer α × Deferred α
  | .takeOldest => (.item (d.walk.takeNth d.owed).1, ⟨(d.walk.takeNth d.owed).2, 0⟩)
  | .takeNewest =>
    if 0 < d.remaining then (.item d.walk.takeNewest.1, ⟨d.walk.takeNewest.2, d.owed⟩)
    else (.item none, d)
  | .length => (.length d.remaining, d)
  | .lengthBounds => (.lengthBounds d.remaining d.remaining, d)

def answers (d : Deferred α) : List Call → List (Answer α)
  | [] => []
  | c :: cs => (d.answer c).1 :: (d.answer c).2.answers cs

/-- Behind the elements to be passed over lie those that the other walk spans. -/
def StandsFor (d : Deferred α) (w : Walk α) : Prop :=
  ∃ passed xs, d.walk.Spans (passed ++ xs) ∧ d.owed = passed.length ∧ w.Spans xs

end Deferred

theorem Spans.takeNth_append {w : Walk α} {passed xs : List α} (h : w.Spans (passed ++ xs)) :
    (w.takeNth passed.length).1 = xs.head? ∧ (w.takeNth passed.length).2.Spans xs.tail := by
  induction passed generalizing w with
  | nil =>
    cases xs with
    | nil =>
      show w.takeOldest.1 = none ∧ w.takeOldest.2.Spans []
      rw [h.takeOldest_nil]
      exact ⟨rfl, h⟩
    | cons x xs => exact h.takeOldest_cons
  | cons y passed ih =>
    obtain ⟨hy, hnext⟩ := h.takeOldest_cons
    have hnth : w.takeNth (passed.length + 1) = w.takeOldest.2.takeNth passed.length := by
      rw [takeNth]
      split
      · next hnone => rw [hnone] at hy; cases hy
      · next hsome => rw [hsome]
    rw [List.length_cons, hnth]
    exact ih hnext

namespace Deferred.StandsFor

variable {d : Deferred α} {w : Walk α}

theorem answer_eq (h : d.StandsFor w) (c : Call) :
    (d.answer c).1 = (w.answer c).1 ∧ (d.answer c).2.StandsFor (w.answer c).2 := by
  obtain ⟨passed, xs, hd, howed, hw⟩ := h
  have hremaining : d.remaining = xs.length := by
    rw [remaining, hd.remaining_eq, howed, List.length_append, Nat.add_sub_cancel_left]
  cases c with
  | takeOldest =>
    obtain ⟨hitem, hrest⟩ := hd.takeNth_append
    rw [← howed] at hitem hrest
    simp only [answer, Walk.answer, hitem]
    cases xs with
    | nil =>
      rw [hw.takeOldest_nil]
      exact ⟨rfl, [], [], hrest, rfl, hw⟩
    | cons x xs =>
      obtain ⟨hx, hnext⟩ := hw.takeOldest_cons
      rw [hx]
      exact ⟨rfl, [], xs, hrest, rfl, hnext⟩
  | takeNewest =>
    simp only [answer, Walk.answer, hremaining]
    rcases List.eq_nil_or_concat' xs with rfl | ⟨ys, x, rfl⟩
    · rw [if_neg (by simp), hw.takeNewest_nil]
      exact ⟨rfl, passed, [], hd, howed, hw⟩
    · rw [← List.append_assoc] at hd
      rw [if_pos (by simp), hd.takeNewest_concat.1, hw.takeNewest_concat.1]
      exact ⟨rfl, passed, ys, hd.takeNewest_concat.2, howed, hw.takeNewest_concat.2⟩
  | length | lengthBounds =>
    simp only [answer, Walk.answer, hremaining, hw.remaining_eq]
    exact ⟨trivial, passed, xs, hd, howed, hw⟩

/-- Putting off what is to be passed over is not noticed. -/
theorem answers_eq (h : d.StandsFor w) (calls : List Call) : d.answers calls = w.answers calls := by
  induction calls generalizing d w with
  | nil => rfl
  | cons c cs ih =>
    obtain ⟨hanswer, hnext⟩ := h.answer_eq c
    rw [answers, Walk.answers, hanswer, ih hnext]

end Deferred.StandsFor

theorem standsFor_walkFrom {r : Ring α} (hr : r.Tidy) {k : Nat} (hk : k ≤ r.size) :
    ((r.walkFrom 0).defer k).StandsFor (r.walkFrom k) := by
  refine ⟨r.toList.take k, r.toList.drop k, ?_, ?_, spans_walkFrom hr hk⟩
  · rw [List.take_append_drop]
    exact spans_walkFrom hr (Nat.zero_le _)
  · rw [List.length_take, hr.length_toList, Nat.min_eq_left hk]
    rfl

end Walk

end Rewind.Ring
