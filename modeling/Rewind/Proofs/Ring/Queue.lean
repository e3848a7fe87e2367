import Rewind.Proofs.Ring.Layout
import Rewind.Proofs.Trace
import Rewind.Ring.Command

/-! Rings are bounded queues. A ring answers any commands as a list does that takes elements at its
end while it has room and gives them up at its front, and in every state that it gets to each element
lies in the slot of its place and no other slot is in use (`performAll_refines_queue`). -/
namespace Rewind.Ring

variable {α : Type}

/-- The commands that change a ring or read one of its elements. -/
inductive Action (α : Type) where
  | push (x : α)
  | pop
  | peek (n : Nat)
  | drop (n : Nat)
  | clear

def Action.command : Action α → Command α
  | push x => .push x
  | pop => .pop
  | peek n => .peek n
  | drop n => .drop n
  | clear => .clear

/-- A queue as a list, oldest element first, that has room for `capacity` elements. -/
def boundedQueue (capacity : Nat) : Action α → List α → Reply α × List α
  | .push x, xs => if xs.length < capacity then (.done, xs ++ [x]) else (.full ⟨capacity, x⟩, xs)
  | .pop, xs => (.item xs.head?, xs.tail)
  | .peek n, xs => (.item xs[n]?, xs)
  | .drop n, xs => (.count (min n xs.length), xs.drop n)
  | .clear, _ => (.nothing, [])

/-- The ring has the slots of a bound and holds the elements of a queue in them. -/
structure IsQueue (r : Ring α) (bound : Nat) (xs : List α) : Prop where
  bound_eq : r.bound = bound
  head_lt : r.head < 2 ^ bound
  size_le : r.size ≤ 2 ^ bound
  size_eq : r.size = xs.length
  toList_eq : r.toList = xs
  taken : ∀ i, i < r.size → r.slots[(r.head + i) % 2 ^ bound]? = some xs[i]?
  vacant : ∀ j, j < 2 ^ bound → (∀ i, i < r.size → j ≠ (r.head + i) % 2 ^ bound) →
    r.slots[j]? = some none
  /-- The slot of a place is found by adding words and masking the sum. -/
  masked : ∀ i, ((BitVec.ofNat 64 r.head + BitVec.ofNat 64 i) &&&
    BitVec.ofNat 64 (2 ^ bound - 1)).toNat = (r.head + i) % 2 ^ bound
  /-- An element is turned away just when all slots are in use, and then nothing changes. -/
  full_iff : ∀ render x, perform render (.push x) r = (.full ⟨2 ^ bound, x⟩, r) ↔
    r.size = 2 ^ bound
  head_clear : ∀ render, (perform render .clear r).2.head = 0

/-! ## Single commands -/

theorem perform_push_of_lt (render : α → String) {r : Ring α} (x : α)
    (h : r.size < slotCount r.bound) : perform render (.push x) r = (.done, r.put x h) := by
  simp only [perform, pushAll, push, dif_pos h, Reply.ofPush]

theorem perform_push_of_full (render : α → String) {r : Ring α} (x : α)
    (h : ¬r.size < slotCount r.bound) :
    perform render (.push x) r = (.full ⟨r.capacity, x⟩, r) := by
  simp only [perform, pushAll, push, dif_neg h, Reply.ofPush]

theorem Tidy.perform_pop {r : Ring α} (hr : r.Tidy) (render : α → String) :
    perform render .pop r = (.item r.toList.head?, if r.size = 0 then r else r.drop 1) := by
  simp only [perform, hr.pop?_eq]
  cases hl : r.toList with
  | nil =>
    have hsize : r.size = 0 := by rw [← hr.length_toList, hl]; rfl
    simp [hsize]
  | cons x xs =>
    have hsize : r.size ≠ 0 := by
      rw [← hr.length_toList, hl]
      exact Nat.succ_ne_zero _
    simp [hsize]

/-- One command does to the elements of a tidy ring what it does to a queue, and leaves the ring
tidy. -/
theorem Tidy.perform_eq {r : Ring α} (hr : r.Tidy) (render : α → String) (a : Action α) :
    (perform render a.command r).1 = (boundedQueue r.capacity a r.toList).1 ∧
      (perform render a.command r).2.Tidy ∧
      (perform render a.command r).2.bound = r.bound ∧
      (perform render a.command r).2.toList = (boundedQueue r.capacity a r.toList).2 := by
  have hlen := hr.length_toList
  cases a with
  | push x =>
    by_cases h : r.size < slotCount r.bound
    · have hroom : r.toList.length < r.capacity := by rw [hlen]; exact h
      simp only [Action.command, perform_push_of_lt render x h, boundedQueue, if_pos hroom]
      exact ⟨trivial, hr.put x h, rfl, hr.toList_put x h⟩
    · have hfull : ¬r.toList.length < r.capacity := by rw [hlen]; exact h
      simp only [Action.command, perform_push_of_full render x h, boundedQueue, if_neg hfull]
      exact ⟨trivial, hr, trivial, trivial⟩
  | pop =>
    simp only [Action.command, hr.perform_pop, boundedQueue]
    by_cases h : r.size = 0
    · have hnil : r.toList = [] := List.eq_nil_of_length_eq_zero (hlen.trans h)
      simp only [if_pos h, hnil, List.tail_nil]
      exact ⟨trivial, hr, trivial, trivial⟩
    · simp only [if_neg h, ← List.drop_one]
      exact ⟨trivial, hr.drop 1, rfl, hr.toList_drop 1⟩
  | peek n =>
    simp only [Action.command, perform, boundedQueue, hr.getElem?_toList]
    exact ⟨trivial, hr, trivial, trivial⟩
  | drop n =>
    simp only [Action.command, perform, boundedQueue, hlen]
    exact ⟨trivial, hr.drop n, rfl, hr.toList_drop n⟩
  | clear =>
    simp only [Action.command, perform, boundedQueue]
    exact ⟨trivial, hr.clear, rfl, hr.toList_clear⟩

/-- A tidy ring is the queue of its elements. -/
theorem Tidy.isQueue {r : Ring α} (hr : r.Tidy) {bound : Nat} (hbound : r.bound = bound)
    (hle : bound ≤ largestBound) : r.IsQueue bound r.toList := by
  subst hbound
  have hcount : slotCount r.bound = 2 ^ r.bound := slotCount_eq_two_pow r.bound
  refine
    { bound_eq := rfl
      head_lt := hcount ▸ r.head_lt
      size_le := hcount ▸ r.size_le
      size_eq := hr.length_toList.symm
      toList_eq := rfl
      taken := ?_
      vacant := ?_
      masked := ?_
      full_iff := ?_
      head_clear := fun _ => rfl }
  · intro i hi
    have hle := r.size_le
    rw [← slot_eq_mod]
    exact hr.getElem?_slots (by omega)
  · intro j hj hfree
    refine hr.vacant (hcount ▸ hj) ?_
    intro i hi
    rw [slot_eq_mod]
    exact hfree i hi
  · intro i
    exact masked_add (Nat.le_trans hle (by decide))
  · intro render x
    have hle := r.size_le
    by_cases h : r.size < slotCount r.bound
    · rw [perform_push_of_lt render x h]
      constructor
      · intro he
        cases congrArg Prod.fst he
      · intro he
        omega
    · rw [perform_push_of_full render x h, capacity_eq]
      constructor
      · intro _
        omega
      · intro _
        rfl

/-! ## Runs -/

theorem performAll_map_command (render : α → String) (as : List (Action α)) (r : Ring α) :
    performAll render (as.map Action.command) r =
      trace (fun a r => perform render a.command r) as r := by
  induction as generalizing r with
  | nil => rfl
  | cons a as ih => exact congrArg _ (ih _)

/-- Whatever is asked of a ring from its creation on, step by step it answers as a bounded queue does
and is that queue. -/
theorem performAll_refines_queue (render : α → String) {bound : Nat}
    (hbound : bound ≤ largestBound) (as : List (Action α)) :
    ∃ r : Ring α, create bound = .ok r ∧ r.IsQueue bound [] ∧
      List.Forall₂ (fun s t => s.1 = t.1 ∧ s.2.IsQueue bound t.2)
        (performAll render (as.map Action.command) r)
        (trace (boundedQueue (2 ^ bound)) as []) := by
  have hstart : (empty bound : Ring α).Tidy := tidy_empty bound
  have hsteps := forall₂_trace (g := boundedQueue (2 ^ bound))
    (R := fun r xs => r.Tidy ∧ r.bound = bound ∧ r.toList = xs)
    (f := fun a r => perform render a.command r) (by
      rintro a r xs ⟨hr, rfl, rfl⟩
      obtain ⟨hreply, htidy, hb, hlist⟩ := hr.perform_eq render a
      rw [capacity_eq] at hreply hlist
      exact ⟨hreply, htidy, hb, hlist⟩) as (s := empty bound) (t := []) ⟨hstart, rfl, rfl⟩
  refine ⟨empty bound, if_pos hbound, hstart.isQueue rfl hbound, ?_⟩
  rw [performAll_map_command]
  refine hsteps.imp ?_
  rintro ⟨reply, r⟩ ⟨reply', xs⟩ ⟨hreply, hr, hb, rfl⟩
  exact ⟨hreply, hr.isQueue hb hbound⟩

/-- Two slots: the third element is turned away, and a later one takes the slot of the first. -/
theorem performAll_refines_queue_wrapped :
    1 ≤ largestBound ∧ ∃ r : Ring Nat, create 1 = .ok r ∧ r.IsQueue 1 [] ∧
      List.Forall₂ (fun s t => s.1 = t.1 ∧ s.2.IsQueue 1 t.2)
        (performAll toString
          ([.push 7, .push 8, .push 9, .pop, .push 9, .drop 18446744073709551615].map
            Action.command) r)
        [(.done, [7]), (.done, [7, 8]), (.full ⟨2, 9⟩, [7, 8]), (.item (some 7), [8]),
          (.done, [8, 9]), (.count 2, [])] :=
  ⟨by decide, performAll_refines_queue toString (by decide) _⟩

end Rewind.Ring
