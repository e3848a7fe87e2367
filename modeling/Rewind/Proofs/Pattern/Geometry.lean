import Rewind.Pattern.Basic
import Rewind.Proofs.Text.Offset

/-! Where matches start and end. A run of a program ends at an offset that it has come by, so a match
ends between two units, at or behind the place where it starts. A match at a unit is told by the text
from there on (`Pattern.applyAt?_width_take`). -/
namespace Rewind

namespace Program

theorem stop_of_better (p : Program) (offset : Nat) (ts : List Thread) {best : Option Found}
    {found : Found} (h : p.better offset ts best = some found) :
    found.stop = offset ∨ best = some found := by
  unfold better at h
  split at h
  · cases h
    exact .inl rfl
  · exact .inr h

/-- The end of a match that a run finds is that of a unit on its way. -/
theorem stop_of_run (p : Program) {before : Option Char} {offset : Nat} {cs : List Char}
    {ts : List Thread} {best : Option Found} {found : Found}
    (h : p.run before offset cs ts best = some found) :
    (∃ n, n ≤ cs.length ∧ found.stop = offset + Text.width (cs.take n)) ∨ best = some found := by
  induction cs generalizing before offset ts best with
  | nil =>
    unfold run at h
    rcases p.stop_of_better _ _ h with hstop | hbest
    · exact .inl ⟨0, Nat.le_refl _, hstop⟩
    · exact .inr hbest
  | cons c cs ih =>
    have here : ∀ {ts best}, p.better offset ts best = some found →
        (∃ n, n ≤ (c :: cs).length ∧ found.stop = offset + Text.width ((c :: cs).take n)) ∨
          best = some found := by
      intro ts best hb
      rcases p.stop_of_better _ _ hb with hstop | hbest
      · exact .inl ⟨0, Nat.zero_le _, hstop⟩
      · exact .inr hbest
    simp only [run] at h
    split at h
    · exact here h
    · rcases ih h with ⟨n, hn, hstop⟩ | hbest
      · refine .inl ⟨n + 1, Nat.succ_le_succ hn, ?_⟩
        rw [hstop, List.take_succ_cons, Text.width, Nat.add_assoc]
      · exact here hbest

theorem stop_of_search (p : Program) {before : Option Char} {offset : Nat} {rest : List Char}
    {found : Found} (h : p.search before offset rest = some found) :
    ∃ n, n ≤ rest.length ∧ found.stop = offset + Text.width (rest.take n) := by
  rcases p.stop_of_run h with hstop | hnone
  · exact hstop
  · cases hnone

end Program

/-- A match is one of the text that it was looked for in, and starts where it was looked for. -/
theorem Pattern.start_of_applyAt? (p : Pattern) {text : List Char} {offset : Nat} {m : Match}
    (h : p.applyAt? text offset = some m) : m.text = text ∧ m.start = offset := by
  unfold applyAt? at h
  obtain ⟨⟨before, rest⟩, -, hsearch⟩ := Option.bind_eq_some_iff.mp h
  obtain ⟨found, -, hmatch⟩ := Option.bind_eq_some_iff.mp hsearch
  obtain rfl : p.toMatch text offset found = m := Option.some.inj hmatch
  exact ⟨rfl, rfl⟩

/-- A match at the offset of a unit ends at that of a unit, which is the same or a later one. -/
theorem Pattern.stop_of_applyAt? (p : Pattern) {text : List Char} {offset : Nat} {m : Match}
    (h : p.applyAt? text offset = some m) :
    ∃ k n, k + n ≤ text.length ∧ offset = Text.width (text.take k) ∧
      m.stop = Text.width (text.take (k + n)) := by
  unfold applyAt? at h
  obtain ⟨⟨before, rest⟩, hseek, hsearch⟩ := Option.bind_eq_some_iff.mp h
  obtain ⟨found, hfound, hmatch⟩ := Option.bind_eq_some_iff.mp hsearch
  obtain ⟨k, hk, hoffset, rfl⟩ := Text.seek?_eq_some hseek
  obtain ⟨n, hn, hstop⟩ := p.program.stop_of_search hfound
  obtain rfl : p.toMatch text offset found = m := Option.some.inj hmatch
  rw [List.length_drop] at hn
  refine ⟨k, n, by omega, hoffset, ?_⟩
  show found.stop = _
  rw [hstop, hoffset, Text.width_take_add]

/-- A match at a unit is what a search finds in the text from there on. -/
theorem Pattern.applyAt?_width_take (r : Pattern) (text : List Char) {k : Nat}
    (hk : k ≤ text.length) {found : Option Program.Found}
    (hsearch : ∀ before,
      r.program.search before (Text.width (text.take k)) (text.drop k) = found) :
    r.applyAt? text (Text.width (text.take k)) =
      found.map (r.toMatch text (Text.width (text.take k))) := by
  obtain ⟨before, hseek⟩ := Text.seek?_width_take none text hk
  show ((Text.seek? none _ text).bind fun x => _) = _
  rw [hseek, Option.bind_some]
  show ((r.program.search before _ (text.drop k)).bind fun found => _) = _
  rw [hsearch]
  cases found <;> rfl

theorem Pattern.applyAt?_append (r : Pattern) (before rest : List Char)
    {found : Option Program.Found}
    (hsearch : ∀ b, r.program.search b (Text.width before) rest = found) :
    r.applyAt? (before ++ rest) (Text.width before) =
      found.map (r.toMatch (before ++ rest) (Text.width before)) := by
  have hlen : before.length ≤ (before ++ rest).length := by simp
  have hbehind : ∀ b, r.program.search b (Text.width ((before ++ rest).take before.length))
      ((before ++ rest).drop before.length) = found := by
    rw [List.take_left, List.drop_left]
    exact hsearch
  have happly := r.applyAt?_width_take _ hlen hbehind
  rwa [List.take_left] at happly

end Rewind
