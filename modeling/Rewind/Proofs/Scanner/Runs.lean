import Rewind.Proofs.Pattern.Classes
import Rewind.Proofs.Scanner.Reading
import Rewind.Proofs.Scanner.Refinement

/-! Runs of a class. A scanner that takes units one by one while they are of a class, and one that
matches the repetition of the class and then goes to the end of the match, get the same text and come
to the same place (`Course.sameRun_reached`). -/
namespace Rewind

open Scanner (Tracks)
open Written (starOf)

/-- What was taken unit by unit is what a match holds, and either way leads to the same place. -/
structure Scanner.SameRun (x : List Char × Scanner) (y : Option Match × Scanner) : Prop where
  matched : ∃ m, y.1 = some m ∧ m.matched = x.1
  offset_eq : y.2.offset = x.2.offset
  consumed_eq : y.2.consumed = x.2.consumed

theorem Scanner.Tracks.sameRun {s : Scanner} {p : Position} (hs : Tracks s p)
    {k : Unicode.Catalog} {source : List Char} {r star : Pattern} (hr : r.IsClass k source)
    (hstar : Pattern.compileWith k (starOf source) {} = .ok star) :
    SameRun (s.takeWhile r.matchesOne) (s.acceptPattern star) := by
  have htake : p.rest.take (p.rest.takeWhile r.matchesOne).length =
      p.rest.takeWhile r.matchesOne :=
    (List.prefix_iff_eq_take.mp (List.takeWhile_prefix _)).symm
  have hsearch : ∀ before, star.program.search before p.offset p.rest =
      some ⟨p.offset + Text.width (p.rest.take (p.rest.takeWhile r.matchesOne).length), []⟩ := by
    intro before
    rw [htake]
    exact Pattern.search_starOf hr hstar before p.offset p.rest
  obtain ⟨m, -, hmatched, hout⟩ := Position.acceptPattern_of_some hs
    (List.takeWhile_prefix (l := p.rest) r.matchesOne).length_le hsearch
  obtain ⟨hfound, hq⟩ := hs.acceptPattern star
  obtain ⟨hrun, ht⟩ := hs.takeWhile r.matchesOne
  rw [hout] at hfound hq
  refine ⟨⟨m, hfound, (hmatched.trans htake).trans hrun.symm⟩, ?_, ?_⟩
  · exact hq.offset_eq.trans ht.offset_eq.symm
  · exact hq.cursor_eq.trans ht.cursor_eq.symm

namespace Scanner

theorem takeSpace_eq (s : Scanner) : s.takeSpace = s.takeWhile s.options.space.matchesOne :=
  Scan.get_bind_apply (fun t => takeWhile t.inSpace) s

theorem takeWord_eq (s : Scanner) : s.takeWord = s.takeWhile s.options.word.matchesOne :=
  Scan.get_bind_apply (fun t => takeWhile t.inWord) s

end Scanner

namespace Course

/-- A class and its repetition agree from wherever moves get a scanner, whatever properties the class
names, and so do the classes that hold where no others are given. -/
theorem sameRun_reached :
    (∀ {k : Unicode.Catalog} {source : List Char} {r star : Pattern}, r.IsClass k source →
      Pattern.compileWith k (starOf source) {} = .ok star →
      ∀ (text : List Char) (options : Options) (ms : List Move),
        Scanner.SameRun ((reached text options ms).takeWhile (Criterion.pattern r).holds)
          ((reached text options ms).acceptPattern star)) ∧
    (∃ star, Pattern.compile "(?:\\s)*".toList {} = .ok star ∧
      ∀ (text : List Char) (ms : List Move),
        Scanner.SameRun (reached text .standard ms).takeSpace
          ((reached text .standard ms).acceptPattern star)) ∧
    ∃ star, Pattern.compile "(?:[\\p\x7bL\x7d\\p\x7bNd\x7d_$])*".toList {} = .ok star ∧
      ∀ (text : List Char) (ms : List Move),
        Scanner.SameRun (reached text .standard ms).takeWord
          ((reached text .standard ms).acceptPattern star) := by
  have hspace : "(?:\\s)*".toList = starOf Options.spaceSource.toList := rfl
  have hword : "(?:[\\p\x7bL\x7d\\p\x7bNd\x7d_$])*".toList = starOf Options.wordSource.toList := rfl
  rw [hspace, hword]
  refine ⟨fun hr hstar text options ms => (tracks_reached text options ms).sameRun hr hstar,
    ⟨_, Options.compile_starOf_space, fun text ms => ?_⟩,
    ⟨_, Options.compile_starOf_word, fun text ms => ?_⟩⟩
  · rw [Scanner.takeSpace_eq, options_reached]
    exact (tracks_reached text .standard ms).sameRun Options.isClass_space
      Options.compile_starOf_space
  · rw [Scanner.takeWord_eq, options_reached]
    exact (tracks_reached text .standard ms).sameRun Options.isClass_word
      Options.compile_starOf_word

/-- A catalog in which `P` stands for two marks. -/
def marks : Unicode.Catalog where
  lone? name := if name = ['p'] then some ⟨[(0x21, 0x21), (0x3F, 0x3F)]⟩ else none
  valued? _ _ := none

/-- The class of three letters and of the marks of a catalog, and its repetition, in the middle of a
text that goes on behind the run. -/
theorem sameRun_letters :
    ∃ r star, r.IsClass marks "[a-c\\pP]".toList ∧
      Pattern.compileWith marks (starOf "[a-c\\pP]".toList) {} = .ok star ∧
      Scanner.SameRun
        ((reached "xab! ".toList .standard [.act .next]).takeWhile (Criterion.pattern r).holds)
        ((reached "xab! ".toList .standard [.act .next]).acceptPattern star) ∧
      ((reached "xab! ".toList .standard [.act .next]).takeWhile (Criterion.pattern r).holds).1 =
        ['a', 'b', '!'] := by
  have hr : (Pattern.ofRegex "[a-c\\pP]".toList {}
      (.set false ⟨[(33, 33), (63, 63), (97, 99)]⟩)).IsClass marks "[a-c\\pP]".toList :=
    ⟨by decide +kernel, by decide +kernel⟩
  have hstar : Pattern.compileWith marks (starOf "[a-c\\pP]".toList) {} = .ok (.ofRegex
      (starOf "[a-c\\pP]".toList) {}
      (.rep 0 none true (.set false ⟨[(33, 33), (63, 63), (97, 99)]⟩))) := by
    decide +kernel
  exact ⟨_, _, hr, hstar, sameRun_reached.1 hr hstar _ _ _, by decide +kernel⟩

end Course

end Rewind
