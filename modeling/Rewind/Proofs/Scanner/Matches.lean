import Rewind.Proofs.Pattern.Groups
import Rewind.Proofs.Scanner.Refinement

/-! The geometry of matches. Whatever the pattern, its flags and the text, a match begins where it was
asked for, its groups lie inside of it, and each of them is a part of the text; a scanner that accepts
it stops right behind it (`matchesInPlace_reached`). -/
namespace Rewind

open Text (isBoundary)

/-- How a match lies in its text. -/
structure Match.Fits (m : Match) (r : Pattern) (text : List Char) (offset : Nat) : Prop where
  text_eq : m.text = text
  start_eq : m.start = offset
  length_eq : m.length = r.groupCount
  whole_eq : m.range? 0 = some (m.start, m.stop)
  /-- The match ends at or behind its start and not behind the text. -/
  whole : Text.Cuts text offset (Text.width text) (m.start, m.stop)
  ranges : ∀ i range, m.range? i = some range →
    i < m.length ∧ Text.Cuts text m.start m.stop range
  matched : ∃ before after, text = before ++ (m.matched ++ after) ∧
    m.start = Text.width before ∧ m.stop = Text.width before + Text.width m.matched
  /-- The text of a group is what stands at its range. -/
  texts : ∀ i w, m.get? i = some w → ∃ before after, text = before ++ (w ++ after) ∧
    m.range? i = some (Text.width before, Text.width before + Text.width w)
  named : ∀ name w, m.named? name = some w →
    ∃ i, i < m.length ∧ (name, i) ∈ r.groupNames ∧ m.get? i = some w

/-- What comes of matching a pattern at an offset of a text. -/
structure Pattern.MatchesInPlace (r : Pattern) (text : List Char) (offset : Nat) : Prop where
  /-- Up to the end of the text it is no error to ask. -/
  answers : offset ≤ Text.width text → r.applyAt text offset = .ok (r.applyAt? text offset)
  inside : isBoundary offset text = false → r.applyAt? text offset = none
  fits : ∀ m, r.applyAt? text offset = some m → m.Fits r text offset

/-- Taking the units of a match one by one comes to its end and not past it. -/
structure Scanner.LandsOnMatches (s : Scanner) (r : Pattern) : Prop where
  found : (s.acceptPattern r).1 = r.applyAt? s.text s.offset
  offset_eq : ∀ m, (s.acceptPattern r).1 = some m → (s.acceptPattern r).2.offset = m.stop

namespace Pattern

variable {r : Pattern} {text : List Char} {offset : Nat} {m : Match}

theorem le_foldl_max (gs : List (Nat × Option (List Char))) (n : Nat) :
    n ≤ gs.foldl (fun n g => max n (g.1 + 1)) n := by
  induction gs generalizing n with
  | nil => exact Nat.le_refl _
  | cons g gs ih => exact Nat.le_trans (Nat.le_max_left ..) (ih _)

theorem groups_of_applyAt? (h : r.applyAt? text offset = some m) :
    m.groups.length = r.groupCount - 1 ∧ m.names = r.groupNames := by
  obtain ⟨⟨before, rest⟩, -, hsearch⟩ := Option.bind_eq_some_iff.mp h
  obtain ⟨found, -, hmatch⟩ := Option.bind_eq_some_iff.mp hsearch
  obtain rfl : r.toMatch text offset found = m := Option.some.inj hmatch
  exact ⟨by rw [toMatch, List.length_map, List.length_range], rfl⟩

theorem whole_of_applyAt? (h : r.applyAt? text offset = some m) :
    Text.Cuts text offset (Text.width text) (m.start, m.stop) := by
  obtain ⟨k, n, hle, hoffset, hstop⟩ := r.stop_of_applyAt? h
  have hstart := (r.start_of_applyAt? h).2
  have hall := Text.width_take_le text hle
  rw [List.take_length] at hall
  rw [hstart, hstop, hoffset]
  exact
    { first_le := Nat.le_refl _
      start_le_stop := Text.width_take_le text (Nat.le_add_right k n)
      le_last := hall
      start := Text.isBoundary_width_take text (by omega)
      stop := Text.isBoundary_width_take text hle }

/-- The whole match lies in itself, and the groups with a number lie in it. -/
theorem ranges_of_applyAt? (h : r.applyAt? text offset = some m) {i : Nat} {range : Nat × Nat}
    (hrange : m.range? i = some range) : i < m.length ∧ Text.Cuts text m.start m.stop range := by
  cases i with
  | zero =>
    obtain rfl : (m.start, m.stop) = range := Option.some.inj hrange
    have hwhole := whole_of_applyAt? h
    exact ⟨Nat.succ_pos _,
      { hwhole with first_le := Nat.le_refl _, le_last := Nat.le_refl _ }⟩
  | succ i =>
    have hget : m.groups[i]? = some (some range) := Option.join_eq_some_iff.mp hrange
    exact ⟨Nat.succ_lt_succ (List.getElem?_eq_some_iff.mp hget).1,
      cuts_of_applyAt? h (List.mem_of_getElem? hget)⟩

theorem fits_of_applyAt? (h : r.applyAt? text offset = some m) : m.Fits r text offset := by
  obtain ⟨htext, hstart⟩ := r.start_of_applyAt? h
  obtain ⟨hgroups, hnames⟩ := groups_of_applyAt? h
  refine
    { text_eq := htext
      start_eq := hstart
      length_eq := ?_
      whole_eq := rfl
      whole := whole_of_applyAt? h
      ranges := fun i range => ranges_of_applyAt? h
      matched := ?_
      texts := ?_
      named := ?_ }
  · have hpos : 1 ≤ r.groupCount := le_foldl_max _ _
    rw [Match.length, hgroups]
    omega
  · rw [Match.matched, htext]
    exact (whole_of_applyAt? h).exists_append
  · intro i w hw
    obtain ⟨range, hrange, rfl⟩ := Option.map_eq_some_iff.mp hw
    obtain ⟨before, after, happend, hfirst, hlast⟩ :=
      (ranges_of_applyAt? h hrange).2.exists_append
    rw [htext]
    exact ⟨before, after, happend, hrange.trans (congrArg some (Prod.ext hfirst hlast))⟩
  · intro name w hw
    obtain ⟨i, hlookup, hget⟩ := Option.bind_eq_some_iff.mp hw
    obtain ⟨range, hrange, -⟩ := Option.map_eq_some_iff.mp hget
    obtain ⟨others, rest, hlist, -⟩ := List.lookup_eq_some_iff.mp hlookup
    refine ⟨i, (ranges_of_applyAt? h hrange).1, ?_, hget⟩
    rw [← hnames, hlist]
    exact List.mem_append_right others List.mem_cons_self

theorem matchesInPlace (r : Pattern) (text : List Char) (offset : Nat) :
    r.MatchesInPlace text offset where
  answers hle := if_neg (by omega)
  inside hinside := by
    cases hm : r.applyAt? text offset with
    | none => rfl
    | some m =>
      have hboundary := (whole_of_applyAt? hm).start
      rw [(r.start_of_applyAt? hm).2, hinside] at hboundary
      cases hboundary
  fits _ := fits_of_applyAt?

end Pattern

theorem Scanner.Tracks.landsOnMatches {s : Scanner} {p : Position} (h : Tracks s p) (r : Pattern) :
    s.LandsOnMatches r := by
  obtain ⟨hout, ht⟩ := h.acceptPattern r
  have hsame : r.applyAt? s.text s.offset = r.applyAt? p.text p.offset := by
    rw [h.text_eq, h.offset_eq]
  rw [Position.acceptPattern] at hout ht
  cases hm : r.applyAt? p.text p.offset with
  | none =>
    rw [hm] at hout
    exact ⟨by rw [hout, hsame, hm], fun m he => by rw [hout] at he; cases he⟩
  | some m =>
    rw [hm] at hout ht
    refine ⟨by rw [hout, hsame, hm], fun m' he => ?_⟩
    obtain rfl : m = m' := Option.some.inj (hout.symm.trans he)
    obtain ⟨k, n, hle, hoffset, hstop⟩ := r.stop_of_applyAt? hm
    obtain rfl : p.index = k := Text.width_take_inj h.index_le_length (by omega) hoffset
    have hpass : p.index + ((Text.takeBytes m.stop p.text).length - p.index) = p.index + n := by
      rw [hstop, Text.takeBytes_width_take, List.length_take]
      omega
    rw [ht.offset_eq, hstop]
    show Text.width (p.text.take (p.index + _)) = _
    rw [hpass]

/-- Matches lie in place, at whatever offset of whatever text, and a scanner lands on their ends from
wherever moves get it. -/
theorem Course.matchesInPlace_reached (text : List Char) (options : Options) (ms : List Move)
    (r : Pattern) : (∀ offset, r.MatchesInPlace text offset) ∧
      (reached text options ms).LandsOnMatches r :=
  ⟨r.matchesInPlace text, (tracks_reached text options ms).landsOnMatches r⟩

end Rewind
