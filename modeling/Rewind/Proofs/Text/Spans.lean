import Rewind.Proofs.Text.Offset

/-! Runs and spans of a text. A run is of one class of units and ends where a unit is of another. Spans
are parts one behind the other, each told by the byte offsets between which it stands; what stands
before, between and behind them is all of one class. -/
namespace Rewind.Text

/-! ## Runs -/

/-- A character of two texts put together stands in the first one, or behind it. -/
theorem append_cons_cases {a b before after : List Char} {c : Char}
    (h : before ++ c :: after = a ++ b) :
    (∃ more, a = before ++ c :: more) ∨
      ∃ between, before = a ++ between ∧ between ++ c :: after = b := by
  rcases List.append_eq_append_iff.mp h with ⟨x, ha, hx⟩ | ⟨between, hbefore, hb⟩
  · cases x with
    | nil => exact .inr ⟨[], by simpa using ha.symm, hx⟩
    | cons d x =>
      obtain ⟨rfl, -⟩ := List.cons.inj hx
      exact .inl ⟨x, ha⟩
  · exact .inr ⟨between, hbefore, hb.symm⟩

section

variable {f : Char → Bool} {x y r t : List Char}

theorem takeWhile_eq_nil : r.takeWhile f = [] ↔ r.head?.any f = false := by
  cases r with
  | nil => simp
  | cons c cs => simp [List.takeWhile_cons]

/-- A run of one class ends where a text begins that does not go on with it. -/
theorem takeWhile_append (hx : ∀ c ∈ x, f c = true) (hr : r.head?.any f = false) :
    (x ++ r).takeWhile f = x := by
  rw [List.takeWhile_append_of_pos hx, takeWhile_eq_nil.mpr hr, List.append_nil]

/-- Behind a run comes a unit that does not go on with it. -/
theorem of_mem_head?_dropWhile {c : Char} (hc : c ∈ (x.dropWhile f).head?) : f c = false := by
  have hstop := List.head?_dropWhile_not f x
  rw [Option.mem_def.mp hc] at hstop
  simpa using hstop

/-- Where a run ends can be told from the text that it begins. -/
theorem append_inj_of_run (hx : ∀ c ∈ x, f c = true) (hy : ∀ c ∈ y, f c = true)
    (hr : r.head?.any f = false) (ht : t.head?.any f = false) (h : x ++ r = y ++ t) :
    x = y ∧ r = t := by
  have hrun := congrArg (List.takeWhile f) h
  rw [takeWhile_append hx hr, takeWhile_append hy ht] at hrun
  subst hrun
  exact ⟨rfl, List.append_cancel_left h⟩

end

/-! ## Spans -/

variable {gap : Char → Bool} {n : Nat} {cs : List Char} {spans : List (Nat × Nat)}

/-- Spans of a text that begins at an offset. -/
inductive Spans (gap : Char → Bool) : Nat → List Char → List (Nat × Nat) → Prop where
  | done {n : Nat} {cs : List Char} (hcs : ∀ c ∈ cs, gap c = true) : Spans gap n cs []
  | more {n start stop : Nat} {before w rest : List Char} {spans : List (Nat × Nat)}
      (hbefore : ∀ c ∈ before, gap c = true) (hstart : start = n + width before)
      (hstop : stop = start + width w) (hne : w ≠ []) (hrest : Spans gap stop rest spans) :
      Spans gap n (before ++ (w ++ rest)) ((start, stop) :: spans)

namespace Spans

theorem start_lt (h : Spans gap n cs spans) : ∀ x ∈ spans, x.1 < x.2 := by
  induction h with
  | done hcs => nofun
  | more hbefore hstart hstop hne hrest ih =>
    intro x hx
    rcases List.mem_cons.mp hx with rfl | hmem
    · have := width_pos hne
      omega
    · exact ih x hmem

/-- No span begins before the text does. -/
theorem le_start (h : Spans gap n cs spans) : ∀ x ∈ spans, n ≤ x.1 := by
  induction h with
  | done hcs => nofun
  | more hbefore hstart hstop hne hrest ih =>
    intro x hx
    rcases List.mem_cons.mp hx with rfl | hmem
    · omega
    · have := ih x hmem
      omega

theorem ordered (h : Spans gap n cs spans) : spans.Pairwise fun x y => x.2 ≤ y.1 := by
  induction h with
  | done hcs => exact .nil
  | more hbefore hstart hstop hne hrest ih => exact .cons hrest.le_start ih

/-- A character stands before the first span, in it, or behind it. -/
theorem outside (h : Spans gap n cs spans) {before after : List Char} {c : Char}
    (hcs : before ++ c :: after = cs)
    (hout : ∀ x ∈ spans, x.1 ≤ n + width before → x.2 ≤ n + width before) : gap c = true := by
  induction h generalizing before with
  | done hgap => exact hgap c (hcs ▸ by simp)
  | @more n start stop between w rest spans hbefore hstart hstop hne hrest ih =>
    obtain ⟨hfirst, hothers⟩ := List.forall_mem_cons.mp hout
    rcases append_cons_cases hcs with ⟨more, hinGap⟩ | ⟨inside, rfl, hbehind⟩
    · exact hbefore c (hinGap ▸ by simp)
    · rw [width_append] at hfirst hothers
      rcases append_cons_cases hbehind with ⟨more, hcovered⟩ | ⟨behind, rfl, hrest'⟩
      · have hwidth := congrArg width hcovered
        have hpos := width_pos (List.cons_ne_nil c more)
        rw [width_append] at hwidth
        have := hfirst (by omega)
        omega
      · rw [width_append] at hothers
        refine ih hrest' fun x hx hle => ?_
        have := hothers x hx (by omega)
        omega

end Spans

end Rewind.Text
