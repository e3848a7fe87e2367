import Rewind.Proofs.Scanner.Refinement
import Rewind.Proofs.Script.Grammar

/-! Expressions are accepted exactly by their grammar. From every place that a scanner can get to,
what is accepted derives and goes as far as it can, and what derives is accepted up to its end
(`readsExpressions_reached`). -/
namespace Rewind

open Script

/-- Expressions are accepted exactly by their grammar, from where a scanner stands. -/
structure Scanner.ReadsExpressions (s : Scanner) : Prop where
  /-- What is gone over is an expression. What is to come makes its last lexeme no longer and has no
  operator next. -/
  sound : ∀ e t, expression s = (some e, t) →
    t.text = s.text ∧ ∃ w last, Text.slice s.text s.offset t.offset = w ∧
      t.offset = s.offset + Text.width w ∧ Derives (.chain .sum) w e last ∧
      ¬Extends last t.rest ∧ NoneNext ['+', '-', '*', '/'] t.rest
  /-- An expression is gone over and no more, whatever comes before it. -/
  complete : ∀ before w after e last, s.text = before ++ (w ++ after) →
    s.offset = Text.width before → Derives (.chain .sum) w e last → ¬Extends last after →
    NoneNext ['+', '-', '*', '/'] after →
    ∃ t, expression s = (some e, t) ∧ t.text = s.text ∧ t.offset = s.offset + Text.width w

theorem Scanner.Tracks.readsExpressions {s : Scanner} {p : Position} (hs : Tracks s p) :
    s.ReadsExpressions := by
  obtain ⟨q, ⟨hout, ht⟩, hpq, hrest⟩ := reads_expression s p hs
  refine { sound := ?_, complete := ?_ }
  · intro e t heq
    rw [heq] at hout ht
    obtain ⟨⟨a, rest⟩, hread, ha⟩ := Option.map_eq_some_iff.mp hout.symm
    obtain rfl : a = e := ha
    obtain rfl : q.rest = rest := hrest _ hread
    obtain ⟨w, last, hw, hderives, hend, hnext⟩ := sound_readExpression _ _ _ hread
    obtain ⟨hslice, hoffset⟩ := hs.slice_of_rest ht hpq hw
    have htext : t.text = s.text := ht.text_eq.trans (hpq.text_eq.trans hs.text_eq.symm)
    rw [htext] at hslice
    refine ⟨htext, w, last, hslice, hoffset, hderives, ?_⟩
    rw [ht.rest_eq]
    exact ⟨hend, hnext⟩
  · intro before w after e last htext hoffset hderives hend hnext
    have hp := hs.rest_of_offset htext hoffset
    have hread := hderives.readExpression_eq hend hnext
    rw [← hp] at hread
    obtain ⟨-, hoffset'⟩ := hs.slice_of_rest ht hpq (w := w) (by rw [hrest _ hread, hp])
    rw [hread] at hout
    exact ⟨_, Prod.ext hout rfl, ht.text_eq.trans (hpq.text_eq.trans hs.text_eq.symm), hoffset'⟩

namespace Course

/-- Every place in a text can be got to. -/
theorem offset_reached_advance (text : List Char) (options : Options) {k : Nat}
    (hk : k ≤ text.length) :
    (reached text options [.act (.advance k)]).offset = Text.width (text.take k) := by
  rw [(tracks_reached text options _).offset_eq]
  show Text.width (text.take (0 + min k (text.drop 0).length)) = _
  rw [List.drop_zero, Nat.zero_add, Nat.min_eq_left hk]

theorem readsExpressions_reached (text : List Char) (options : Options) (ms : List Move) :
    (reached text options ms).ReadsExpressions :=
  (tracks_reached text options ms).readsExpressions

end Course

end Rewind
