import Rewind.Proofs.Pattern.Geometry

/-! Where the groups of matches lie. A thread opens and closes groups at the offset that it has got
to, and it never goes back, so whatever states it comes by, in whatever order they are preferred, its
groups lie between the start of the search and that offset, and begin and end between two units
(`Thread.Fits`). What holds of all threads holds of the one that a match is made from. -/
namespace Rewind

open Text (isBoundary)

/-- A range of offsets inside of a larger range, at which a text can be cut. -/
structure Text.Cuts (text : List Char) (first last : Nat) (r : Nat × Nat) : Prop where
  first_le : first ≤ r.1
  start_le_stop : r.1 ≤ r.2
  le_last : r.2 ≤ last
  start : isBoundary r.1 text = true
  stop : isBoundary r.2 text = true

namespace Text.Cuts

variable {text : List Char} {first last : Nat} {r : Nat × Nat}

theorem mono (h : Cuts text first last r) {last' : Nat} (hle : last ≤ last') :
    Cuts text first last' r :=
  { h with le_last := Nat.le_trans h.le_last hle }

/-- What is cut out is a part of the text that begins and ends at these offsets. -/
theorem exists_append (h : Cuts text first last r) :
    ∃ before after, text = before ++ (slice text r.1 r.2 ++ after) ∧ r.1 = width before ∧
      r.2 = width before + width (slice text r.1 r.2) := by
  obtain ⟨i, hi, hstart⟩ := (isBoundary_iff text r.1).mp h.start
  obtain ⟨j, hj, hstop⟩ := (isBoundary_iff text r.2).mp h.stop
  have hij : i ≤ j := by
    apply Nat.le_of_not_lt
    intro hlt
    have hlater := width_take_lt hlt hi
    have hle := h.start_le_stop
    omega
  obtain ⟨n, rfl⟩ := Nat.exists_eq_add_of_le hij
  have hslice : slice text r.1 r.2 = (text.drop i).take n := by
    rw [hstart, hstop, slice_width_take]
  refine ⟨text.take i, (text.drop i).drop n, ?_, hstart, ?_⟩
  · rw [hslice, List.take_append_drop, List.take_append_drop]
  · rw [hslice, hstop, width_take_add]

end Text.Cuts

/-- The groups that a thread is in began, and those that it has left lie, between the start of the
search and the offset that it has got to. -/
structure Thread.Fits (text : List Char) (first offset : Nat) (t : Thread) : Prop where
  opened : ∀ a ∈ t.opened, Text.Cuts text first offset (a, offset)
  closed : ∀ g ∈ t.closed, Text.Cuts text first offset g.2

/-- The same of what a search has found. -/
def Program.Found.Fits (text : List Char) (first : Nat) (found : Found) : Prop :=
  ∀ g ∈ found.closed, Text.Cuts text first found.stop g.2

namespace Thread.Fits

variable {text : List Char} {first offset : Nat} {t : Thread}

theorem start (text : List Char) (first offset : Nat) : Fits text first offset Program.start :=
  ⟨nofun, nofun⟩

theorem goTo (h : Fits text first offset t) (i : Nat) : Fits text first offset (t.goTo i) :=
  ⟨h.opened, h.closed⟩

theorem openAt (h : Fits text first offset t) (hfirst : first ≤ offset)
    (hoffset : isBoundary offset text = true) : Fits text first offset (t.openAt offset) := by
  refine ⟨?_, h.closed⟩
  intro a ha
  rcases List.mem_cons.mp ha with rfl | ha
  · exact ⟨hfirst, Nat.le_refl _, Nat.le_refl _, hoffset, hoffset⟩
  · exact h.opened a ha

/-- A group that is closed has its start on top of the groups that are open. -/
theorem closeAt (h : Fits text first offset t) (index : Nat) :
    Fits text first offset (t.closeAt index offset) := by
  obtain ⟨state, opened, closed⟩ := t
  cases opened with
  | nil => exact h
  | cons a outer =>
    refine ⟨fun b hb => h.opened b (List.mem_cons_of_mem _ hb), ?_⟩
    intro g hg
    rcases List.mem_cons.mp hg with rfl | hg
    · exact h.opened a List.mem_cons_self
    · exact h.closed g hg

/-- Groups stay in place when the thread takes a character. -/
theorem step (h : Fits text first offset t) {p : Program} {c : Char} {u : Thread} {next : Nat}
    (hu : p.step? c t = some u) (hle : offset ≤ next) (hnext : isBoundary next text = true) :
    Fits text first next u := by
  unfold Program.step? at hu
  split at hu
  · obtain ⟨-, hgo⟩ := Option.ite_none_right_eq_some.mp hu
    obtain rfl := Option.some.inj hgo
    refine ⟨fun a ha => ?_, fun g hg => (h.closed g hg).mono hle⟩
    have hopen := h.opened a ha
    exact ⟨hopen.first_le, Nat.le_trans hopen.start_le_stop hle, Nat.le_refl _, hopen.start, hnext⟩
  · cases hu

end Thread.Fits

namespace Program

variable {text : List Char} {first offset : Nat} (p : Program)

/-- Going on without a character opens and closes groups at the offset at hand, or none. -/
theorem fits_successors (holds : Look → Bool) {t : Thread} (h : t.Fits text first offset)
    (hfirst : first ≤ offset) (hoffset : isBoundary offset text = true) :
    ∀ u ∈ p.successors holds offset t, u.Fits text first offset := by
  intro u hu
  unfold successors at hu
  split at hu
  · split at hu
    · exact List.mem_singleton.mp hu ▸ h.goTo _
    · cases hu
  · rcases List.mem_cons.mp hu with rfl | hu
    · exact h.goTo _
    · exact List.mem_singleton.mp hu ▸ h.goTo _
  · exact List.mem_singleton.mp hu ▸ h.goTo _
  · exact List.mem_singleton.mp hu ▸ (h.openAt hfirst hoffset).goTo _
  · exact List.mem_singleton.mp hu ▸ (h.closeAt _).goTo _
  · cases hu

theorem fits_follow (holds : Look → Bool) (hfirst : first ≤ offset)
    (hoffset : isBoundary offset text = true) (n : Nat) {todo done : List Thread} (seen : StateSet)
    (htodo : ∀ t ∈ todo, t.Fits text first offset) (hdone : ∀ t ∈ done, t.Fits text first offset) :
    ∀ t ∈ p.follow holds offset n todo seen done, t.Fits text first offset := by
  induction n generalizing todo seen done with
  | zero => simpa only [follow, List.mem_reverse] using hdone
  | succ n ih =>
    cases todo with
    | nil => simpa only [follow, List.mem_reverse] using hdone
    | cons t todo =>
      obtain ⟨ht, htodo⟩ := List.forall_mem_cons.mp htodo
      rw [follow]
      split
      · exact ih seen htodo hdone
      · refine ih _ ?_ ?_
        · exact List.forall_mem_append.mpr ⟨p.fits_successors holds ht hfirst hoffset, htodo⟩
        · split
          · exact List.forall_mem_cons.mpr ⟨ht, hdone⟩
          · exact hdone

theorem fits_closure (holds : Look → Bool) {ts : List Thread} (hfirst : first ≤ offset)
    (hoffset : isBoundary offset text = true) (h : ∀ t ∈ ts, t.Fits text first offset) :
    ∀ t ∈ p.closure holds offset ts, t.Fits text first offset :=
  p.fits_follow holds hfirst hoffset _ _ h nofun

theorem fits_advance {c : Char} {next : Nat} {ts : List Thread}
    (h : ∀ t ∈ ts, t.Fits text first offset) (hle : offset ≤ next)
    (hnext : isBoundary next text = true) : ∀ t ∈ p.advance c ts, t.Fits text first next := by
  intro u hu
  obtain ⟨t, ht, hstep⟩ := List.mem_filterMap.mp hu
  exact (h t (List.takeWhile_subset _ ht)).step hstep hle hnext

/-- A match is made from a thread at the offset where it ends, or was found before. -/
theorem fits_better {ts : List Thread} {best : Option Found}
    (h : ∀ t ∈ ts, t.Fits text first offset) (hbest : ∀ f ∈ best, f.Fits text first) :
    ∀ f ∈ p.better offset ts best, f.Fits text first := by
  intro f hf
  unfold better at hf
  split at hf
  · next t ht =>
    cases hf
    exact (h t (List.mem_of_find?_eq_some ht)).closed
  · exact hbest f hf

/-- A run begins at some unit of the text and goes on from unit to unit. -/
theorem fits_run {before : Option Char} {k : Nat} (hk : k ≤ text.length)
    (hfirst : first ≤ Text.width (text.take k)) {ts : List Thread} {best : Option Found}
    (h : ∀ t ∈ ts, t.Fits text first (Text.width (text.take k)))
    (hbest : ∀ f ∈ best, f.Fits text first) :
    ∀ f ∈ p.run before (Text.width (text.take k)) (text.drop k) ts best, f.Fits text first := by
  have hoffset := Text.isBoundary_width_take text hk
  induction hrest : text.drop k generalizing k before ts best with
  | nil =>
    rw [run]
    exact p.fits_better (p.fits_closure _ hfirst hoffset h) hbest
  | cons c cs ih =>
    have hclosure := p.fits_closure (Look.holds before (some c)) hfirst hoffset h
    have hbetter := p.fits_better hclosure hbest
    have hlt : k < text.length := by
      have := congrArg List.length hrest
      rw [List.length_drop, List.length_cons] at this
      omega
    have hnext : Text.width (text.take k) + c.utf8Size = Text.width (text.take (k + 1)) := by
      rw [Text.width_take_add, hrest]
      rfl
    have hle := Text.width_take_le text (Nat.le_succ k)
    have hboundary := Text.isBoundary_width_take text (Nat.succ_le_of_lt hlt)
    have htail : text.drop (k + 1) = cs := by
      rw [← List.drop_drop, hrest]
      rfl
    simp only [run]
    split
    · exact hbetter
    · rw [hnext]
      exact ih (Nat.succ_le_of_lt hlt) (Nat.le_trans hfirst hle)
        (p.fits_advance hclosure hle hboundary) hbetter hboundary htail

end Program

namespace Pattern

variable {r : Pattern} {text : List Char} {offset : Nat} {m : Match}

/-- The groups of a match with a number lie inside of the match. -/
theorem cuts_of_applyAt? (h : r.applyAt? text offset = some m) {range : Nat × Nat}
    (hmem : some range ∈ m.groups) : Text.Cuts text m.start m.stop range := by
  obtain ⟨⟨before, rest⟩, hseek, hsearch⟩ := Option.bind_eq_some_iff.mp h
  obtain ⟨found, hfound, hmatch⟩ := Option.bind_eq_some_iff.mp hsearch
  obtain ⟨k, hk, rfl, rfl⟩ := Text.seek?_eq_some hseek
  obtain rfl : r.toMatch text _ found = m := Option.some.inj hmatch
  have hfits : found.Fits text (Text.width (text.take k)) :=
    r.program.fits_run hk (Nat.le_refl _)
      (fun t ht => List.mem_singleton.mp ht ▸ .start text _ _)
      (fun f hf => absurd hf (Option.not_mem_none f)) found hfound
  obtain ⟨i, -, hlookup⟩ := List.mem_map.mp hmem
  obtain ⟨later, earlier, hclosed, -⟩ := List.lookup_eq_some_iff.mp hlookup
  exact hfits (i + 1, range) (hclosed ▸ List.mem_append_right later List.mem_cons_self)

end Pattern

end Rewind
