import Rewind.Proofs.Pattern.Footprint
import Rewind.Proofs.Scanner.Invariant
import Rewind.Proofs.Scanner.Matches
import Rewind.Proofs.Script.Termination

/-! A script is run to its end, whatever it is (`runsSafely`). Each turn of the loop over its lines gets
further in the text. No attempt inside of a turn is stranded and the start of a line can always be gone
back to, since only the end of a turn lets go of anything. What is recorded accounts for all of the
text. -/
namespace Rewind

open Script

/-! ## Tokens -/

namespace Script

/-- The trees of the tokens are those of their sources. -/
theorem read_tokens : ∀ r ∈ [number, quoted, ident],
    (Written.parse? false r.source).bind (·.regex? .empty {}) = some r.regex := by
  decide +kernel

theorem bytesBound_tokens : ∀ r ∈ [number, quoted, ident],
    r.regex.hasNoWords = true ∧ r.regex.bytesBound + 208 ≤ footprintLimit := by
  decide +kernel

theorem compile_tokens : ∀ r ∈ [number, quoted, ident], Pattern.compile r.source {} = .ok r := by
  intro r hr
  obtain ⟨hwords, hbound⟩ := bytesBound_tokens r hr
  have hcompile : Pattern.compile r.source {} = .ok (.ofRegex r.source {} r.regex) :=
    Pattern.compile_of_bound (read_tokens r hr) hwords hbound
  have hsame : Pattern.ofRegex r.source {} r.regex = r := by
    simp only [List.mem_cons, List.not_mem_nil, or_false] at hr
    rcases hr with rfl | rfl | rfl <;> rfl
  rw [hcompile, hsame]

end Script

/-! ## Turns -/

namespace Scanner

/-- What a turn of the loop over the lines comes to from where a scanner stands, if there is more than
whitespace to come. -/
structure TurnsSafely (s : Scanner) : Prop where
  advances : s.offset < (record s.behindSpace).2.offset
  /-- The span of the record is from where the line begins to where the turn ends. -/
  span : (record s.behindSpace).1.start = s.behindSpace.offset ∧
    (record s.behindSpace).1.stop = (record s.behindSpace).2.offset
  fetch_settles : (s.behindSpace.attempt fetchLine).1 ≠ .stranded
  set_settles : ((s.behindSpace.attempt fetchLine).2.attempt setLine).1 ≠ .stranded
  /-- The start of the line can be gone back to, whether the line is no statement or more stands behind
  one. -/
  rewinds : ((statement s.behindSpace).2.rewind s.behindSpace.here).1 = .ok ()
  rewinds_behind :
    ((lineIsDone (statement s.behindSpace).2).2.rewind s.behindSpace.here).1 = .ok ()

/-- Nothing that is asked of a scanner can go wrong. -/
structure Proceeds (s : Scanner) : Prop where
  lands : ∀ r, s.LandsOnMatches r
  cuts : s.CutsBetweenUnits
  subtracts : s.SubtractsExactly
  ends : s.ComesToAnEnd

variable {s t : Scanner} {p q : Position}

theorem Tracks.proceeds (h : Tracks s p) : s.Proceeds where
  lands := h.landsOnMatches
  cuts := h.cutsBetweenUnits
  subtracts := h.subtractsExactly
  ends := h.comesToAnEnd

/-- Where nothing was let go since, a scanner can go back to where it was. -/
theorem Tracks.rewind_ok (hs : Tracks s p) (ht : Tracks t q) (hpq : p.Keeps q) :
    (t.rewind s.here).1 = .ok () := by
  have hknows : q.Knows p.here := hs.knows_here.of_le hpq.text_eq hpq.le_high
  have hlow : q.low ≤ p.here.cursor := hpq.low_eq ▸ hs.low_le
  rw [hs.here_eq, (ht.rewind _).1, hknows.rewind_eq, if_pos hlow]

theorem Tracks.attempt_ne_stranded {α : Type} {rule : Rule α} {out : Option (α × List Char)}
    (hs : Tracks s p) (h : rule.Yields s p out) :
    (s.attempt rule).1 ≠ .stranded ∧ ∃ q, Tracks (s.attempt rule).2 q ∧ p.Keeps q := by
  obtain ⟨q, ⟨hout, hq⟩, hpq, -⟩ := h.attempt hs
  refine ⟨?_, q, hq, hpq⟩
  rw [hout]
  cases out <;> nofun

theorem Tracks.turnsSafely (hs : Tracks s p) (ho : p.options = .standard)
    (hmore : s.behindSpace.atEnd = false) : s.TurnsSafely := by
  obtain ⟨q, r, hturn⟩ := exists_turn hs ho
  have hq := hturn.tracks
  have ho' : q.options = .standard := hturn.space.options_eq.trans ho
  obtain ⟨hfetch, u, hu, hqu⟩ := hq.attempt_ne_stranded (yields_fetchLine hq ho')
  have hset := (hu.attempt_ne_stranded (yields_setLine hu (hqu.options_eq.trans ho'))).1
  obtain ⟨v, hqv, ⟨-, hv⟩, -⟩ := recovers_statement hq ho'
  obtain ⟨w, hvw, -, hdone⟩ := agree_lineIsDone v
  have hstop : (record s.behindSpace).2.offset = r.offset := hturn.tracks_next.offset_eq
  refine
    { advances := ?_
      span := ⟨by rw [hturn.agree.1, hq.offset_eq], by rw [hturn.agree.1, hstop]⟩
      fetch_settles := hfetch
      set_settles := hset
      rewinds := hq.rewind_ok hv hqv
      rewinds_behind := hq.rewind_ok (hdone hv).2 (hqv.trans hvw) }
  -- the record begins with a character that is no whitespace, and takes it at least
  rw [hturn.atEnd_eq, decide_eq_false_iff_not] at hmore
  obtain ⟨c, ds, hcons⟩ := List.exists_cons_of_ne_nil hmore
  obtain ⟨x, hx, -⟩ := readRecord_cons (head_dropWhile_isSpace hcons) ds
  rw [← hcons, ← hturn.space_rest, ← hturn.line_rest] at hx
  have hpos := Text.width_pos (List.cons_ne_nil c x)
  rw [hstop, offset_of_keeps hturn.line hx, hturn.start_eq, hs.offset_eq]
  omega

end Scanner

/-- Where the loop over the lines of a script begins a turn. -/
inductive Script.BeginsTurn (text : List Char) : Scanner → Prop where
  | first : BeginsTurn text (.ofText text .standard)
  | next {s : Scanner} (h : BeginsTurn text s) (hmore : s.behindSpace.atEnd = false) :
    BeginsTurn text (record s.behindSpace).2

/-- A script is run to its end without anything going wrong, and its records account for it. -/
structure Script.RunsSafely (text : List Char) : Prop where
  compiles : ∀ r ∈ [number, quoted, ident], Pattern.compile r.source {} = .ok r
  turnsSafely : ∀ s, BeginsTurn text s → s.behindSpace.atEnd = false → s.TurnsSafely
  /-- This holds wherever actions and attempts get to from where a turn begins. -/
  proceeds : ∀ s, BeginsTurn text s → ∀ {α : Type} (plan : Plan α), (plan.run s).2.Proceeds
  /-- The loop ends in as many turns as there are units, whatever would be done in the next one. -/
  ends : ∀ (bottom : Scan (List Record)) n, text.length < n →
    (turn^[n] bottom (.ofText text .standard)).1 = records text
  accounted : Accounted text (records text)

namespace Script

theorem BeginsTurn.exists_tracks {text : List Char} {s : Scanner} (h : BeginsTurn text s) :
    ∃ p, Scanner.Tracks s p ∧ p.options = .standard := by
  induction h with
  | first => exact ⟨_, Scanner.tracks_ofText text .standard, rfl⟩
  | next h hmore ih =>
    obtain ⟨p, hs, ho⟩ := ih
    obtain ⟨q, r, hturn⟩ := exists_turn hs ho
    exact ⟨r.release.2, hturn.tracks_next, hturn.options_eq.trans ho⟩

theorem runsSafely (text : List Char) : RunsSafely text where
  compiles := compile_tokens
  turnsSafely s h hmore := by
    obtain ⟨p, hs, ho⟩ := h.exists_tracks
    exact hs.turnsSafely ho hmore
  proceeds s h _ plan := by
    obtain ⟨p, hs, -⟩ := h.exists_tracks
    obtain ⟨q, hq, -⟩ := hs.run plan
    exact hq.proceeds
  ends bottom n hn := by
    have hs := Scanner.tracks_ofText text .standard
    rw [turn_iterate bottom hs rfl hn, recordsWithin_eq hs rfl hn, records_eq]
    rfl
  accounted := accounted_records text

end Script

end Rewind
