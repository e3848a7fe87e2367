import Rewind.Proofs.Script.Statement
import Rewind.Proofs.Text.Spans

/-! The records of a script as a reading (`recordsWithin_eq`), and that they account for all of it. A
record covers at least one character, none of those between two records is lost, and what is left out is
whitespace (`covers_readRecords`, `accounted_records`). -/
namespace Rewind

/-- The bytes before a position and those to come are all there are. -/
theorem Position.offset_add_width (p : Position) :
    p.offset + Text.width p.rest = Text.width p.text :=
  Text.width_take_add_drop p.text p.index

def Scanner.behindSpace (s : Scanner) : Scanner := (s.takeWhile Unicode.whitespace.contains).2

namespace Script

open Scanner (Tracks Agree)

/-! ## Readings leave a later part of the text -/

section

variable {cs rest : List Char} {t : Statement}

/-- What is read behind a word leaves a part of the text that is shorter by the word at least. -/
theorem readKeyword_suffix {word : List Char} {x : Unit × List Char}
    (h : readKeyword word cs = some x) (hrest : rest <:+ x.2) :
    rest <:+ cs ∧ word.length + rest.length ≤ cs.length := by
  rw [readKeyword] at h
  obtain ⟨⟨hword, -⟩, hx⟩ := Option.ite_none_right_eq_some.mp h
  cases hx
  have hlen := congrArg List.length (List.prefix_iff_eq_append.mp hword)
  rw [List.length_append] at hlen
  have hle : rest.length ≤ (cs.drop word.length).length := hrest.length_le
  exact ⟨hrest.trans (List.drop_suffix ..), by omega⟩

theorem readTarget_suffix (h : readTarget cs = some (t, rest)) : rest <:+ cs := by
  rw [readTarget] at h
  split at h
  · next x hx =>
    cases h
    exact ⟨'"' :: (x.1 ++ ['"']), by simpa using readQuoted_append hx⟩
  · obtain ⟨-, hsome⟩ := Option.ite_none_left_eq_some.mp h
    cases hsome
    exact List.dropWhile_suffix _

theorem readUnit_suffix {c d : Char} (h : readUnit c cs = some (d, rest)) : rest <:+ cs := by
  obtain ⟨-, rfl⟩ := readUnit_eq_some.mp h
  exact List.suffix_cons ..

theorem readAssignment_suffix (h : readAssignment cs = some (t, rest)) : rest <:+ cs := by
  obtain ⟨-, hsome⟩ := Option.ite_none_left_eq_some.mp h
  obtain ⟨x, hequals, hvalue⟩ := Option.bind_eq_some_iff.mp hsome
  obtain ⟨⟨e, ds⟩, hexpr, hout⟩ := Option.map_eq_some_iff.mp hvalue
  cases hout
  obtain ⟨w, -, hw, -⟩ := sound_readExpression _ _ _ hexpr
  have hskip : ds <:+ skip x.2 := ⟨w, hw⟩
  have hequals' : x.2 <:+ skip (cs.drop (identifier cs).length) := readUnit_suffix hequals
  exact (hskip.trans (List.dropWhile_suffix _)).trans
    ((hequals'.trans (List.dropWhile_suffix _)).trans (List.drop_suffix ..))

theorem readStatement_eq_some {x : Statement × List Char} :
    readStatement cs = some x ↔ readFetch cs = some x ∨ readFetch cs = none ∧ readSet cs = some x := by
  rw [readStatement]
  cases readFetch cs <;> simp

/-- A statement has a word at least. -/
theorem readStatement_suffix (h : readStatement cs = some (t, rest)) :
    rest <:+ cs ∧ rest.length < cs.length := by
  rcases readStatement_eq_some.mp h with hfetch | ⟨-, hset⟩
  · obtain ⟨x, hkeyword, hafter⟩ := Option.bind_eq_some_iff.mp hfetch
    obtain ⟨-, htarget⟩ := Option.ite_none_left_eq_some.mp hafter
    obtain ⟨hsuffix, hlen⟩ := readKeyword_suffix hkeyword
      ((readTarget_suffix htarget).trans (List.dropWhile_suffix _))
    exact ⟨hsuffix, Nat.lt_of_lt_of_le (Nat.lt_add_of_pos_left (by decide)) hlen⟩
  · obtain ⟨x, hkeyword, hafter⟩ := Option.bind_eq_some_iff.mp hset
    obtain ⟨hsuffix, hlen⟩ := readKeyword_suffix hkeyword
      ((readAssignment_suffix hafter).trans (List.dropWhile_suffix _))
    exact ⟨hsuffix, Nat.lt_of_lt_of_le (Nat.lt_add_of_pos_left (by decide)) hlen⟩

/-- A line that is read is a statement and the blanks behind it. -/
theorem readLine_suffix (h : readLine cs = some (t, rest)) :
    rest <:+ cs ∧ rest.length < cs.length ∧ lineEnds rest = true := by
  obtain ⟨⟨t', ds⟩, hstatement, hout⟩ := Option.bind_eq_some_iff.mp h
  obtain ⟨hends, hsome⟩ := Option.ite_none_right_eq_some.mp hout
  cases hsome
  obtain ⟨hsuffix, hlen⟩ := readStatement_suffix hstatement
  have hskip : skip ds <:+ ds := List.dropWhile_suffix _
  exact ⟨hskip.trans hsuffix, Nat.lt_of_le_of_lt hskip.length_le hlen, hends⟩

end

/-! ## What one record takes -/

theorem lineEnds_dropWhile (cs : List Char) : lineEnds (cs.dropWhile (· ≠ '\n')) = true := by
  rw [lineEnds, Option.all_eq_true]
  intro c hc
  simpa using Text.of_mem_head?_dropWhile hc

/-- A record takes a part of the text up to the end of a line. A line that is given up is all of that
part. -/
theorem readRecord_append (cs : List Char) :
    ∃ w, w ++ (readRecord cs).2 = cs ∧ lineEnds (readRecord cs).2 = true ∧
      (∀ line, (readRecord cs).1 = .failed line → w = line ∧ '\n' ∉ line) := by
  rw [readRecord]
  cases hline : readLine cs with
  | some x =>
    obtain ⟨⟨w, hw⟩, -, hends⟩ := readLine_suffix hline
    refine ⟨w, hw, hends, fun line hout => ?_⟩
    cases hout
  | none =>
    refine ⟨cs.takeWhile (· ≠ '\n'), List.takeWhile_append_dropWhile, lineEnds_dropWhile cs, ?_⟩
    rintro line hout
    cases hout
    refine ⟨rfl, fun hmem => ?_⟩
    have hne := List.mem_takeWhile_imp hmem
    simp at hne

theorem isSpace_newline : isSpace '\n' = true := by decide

/-- A record that begins with no whitespace takes something. -/
theorem length_readRecord_lt {c : Char} (hc : isSpace c = false) (cs : List Char) :
    (readRecord (c :: cs)).2.length < (c :: cs).length := by
  rw [readRecord]
  cases hline : readLine (c :: cs) with
  | some x => exact (readLine_suffix hline).2.1
  | none =>
    have hne : c ≠ '\n' := by
      rintro rfl
      rw [isSpace_newline] at hc
      cases hc
    show ((c :: cs).dropWhile (· ≠ '\n')).length < _
    rw [List.dropWhile_cons_of_pos (by simpa using hne)]
    exact Nat.lt_succ_of_le (List.dropWhile_suffix _).length_le

/-! ## The records of a text -/

theorem head_dropWhile_isSpace {cs ds : List Char} {c : Char} (h : cs.dropWhile isSpace = c :: ds) :
    isSpace c = false := by
  have hmem : c ∈ (cs.dropWhile isSpace).head? := by
    rw [h]
    rfl
  exact Text.of_mem_head?_dropWhile hmem

theorem length_behind_lt {cs : List Char} (h : cs.dropWhile isSpace ≠ []) :
    (readRecord (cs.dropWhile isSpace)).2.length < cs.length := by
  obtain ⟨c, ds, hcons⟩ := List.exists_cons_of_ne_nil h
  have hlt := length_readRecord_lt (head_dropWhile_isSpace hcons) ds
  rw [← hcons] at hlt
  exact Nat.lt_of_lt_of_le hlt (List.dropWhile_suffix _).length_le

/-- The records of a text that begins at an offset. Whitespace is passed over before each. -/
def readRecords (offset : Nat) (cs : List Char) : List Record :=
  let start := offset + Text.width (cs.takeWhile isSpace)
  let line := cs.dropWhile isSpace
  if _h : line = [] then []
  else
    let stop := start + (Text.width line - Text.width (readRecord line).2)
    ⟨start, stop, (readRecord line).1⟩ :: readRecords stop (readRecord line).2
termination_by cs.length
decreasing_by exact length_behind_lt ‹_›

theorem readRecords_of_nil {cs : List Char} (h : cs.dropWhile isSpace = []) (n : Nat) :
    readRecords n cs = [] := by
  rw [readRecords, dif_pos h]

theorem readRecords_of_ne_nil {cs line : List Char} (h : cs.dropWhile isSpace = line) (hne : line ≠ [])
    {n start stop : Nat} (hstart : start = n + Text.width (cs.takeWhile isSpace))
    (hstop : stop = start + (Text.width line - Text.width (readRecord line).2)) :
    readRecords n cs = ⟨start, stop, (readRecord line).1⟩ :: readRecords stop (readRecord line).2 := by
  subst h hstart hstop
  rw [readRecords, dif_neg hne]

/-! ## Turns -/

variable {s : Scanner} {p q r : Position} {n : Nat}

/-- One turn of the loop over the lines of a script, and what comes after it. -/
def turn (after : Scan (List Record)) : Scan (List Record) := do
  let _ ← Scanner.takeWhile Unicode.whitespace.contains
  if (← get).atEnd then return []
  let r ← record
  return r :: (← after)

theorem recordsWithin_succ (n : Nat) : recordsWithin (n + 1) = turn (recordsWithin n) := rfl

/-- A turn passes over whitespace, and takes a record if there is more to come. -/
theorem turn_apply (after : Scan (List Record)) (s : Scanner) :
    turn after s =
      if s.behindSpace.atEnd then ([], s.behindSpace)
      else ((record s.behindSpace).1 :: (after (record s.behindSpace).2).1,
        (after (record s.behindSpace).2).2) := by
  have hspace : (s.takeWhile Unicode.whitespace.contains).2 = s.behindSpace := rfl
  unfold turn
  rw [Scan.bind_apply, hspace, Scan.get_bind_apply]
  generalize s.behindSpace = t
  cases t.atEnd <;> rfl

/-- A turn as positions go: from the first over whitespace to the second, and over a record to the
third. What is behind the record is let go of when all is done, and nothing before that. -/
structure Turn (s : Scanner) (p q r : Position) : Prop where
  space : p.Keeps q
  space_rest : q.rest = p.rest.dropWhile isSpace
  tracks : Tracks s.behindSpace q
  line : q.Keeps r
  line_rest : r.rest = (readRecord q.rest).2
  agree : Agree (record s.behindSpace) (⟨q.offset, r.offset, (readRecord q.rest).1⟩, r.release.2)

theorem exists_turn (hs : Tracks s p) (ho : p.options = .standard) : ∃ q r, Turn s p q r := by
  have hq : Tracks s.behindSpace (p.takeWhile isSpace).2 := (hs.takeWhile isSpace).2
  obtain ⟨r, hqr, hrest, hrecord⟩ := agree_record hq ho
  exact ⟨_, r, ⟨.takeWhile p _, p.rest_takeWhile _, hq, hqr, hrest, hrecord⟩⟩

/-- A later position is as far on as what is to come no more is wide. -/
theorem offset_of_keeps (hpq : p.Keeps q) {w : List Char} (hw : w ++ q.rest = p.rest) :
    q.offset = p.offset + Text.width w := by
  have hp := p.offset_add_width
  have hq := q.offset_add_width
  rw [← hw, Text.width_append] at hp
  rw [hpq.text_eq] at hq
  omega

namespace Turn

theorem tracks_next (h : Turn s p q r) : Tracks (record s.behindSpace).2 r.release.2 := h.agree.2

theorem options_eq (h : Turn s p q r) : r.release.2.options = p.options :=
  h.line.options_eq.trans h.space.options_eq

theorem start_eq (h : Turn s p q r) :
    q.offset = p.offset + Text.width (p.rest.takeWhile isSpace) :=
  offset_of_keeps h.space (h.space_rest ▸ List.takeWhile_append_dropWhile)

theorem stop_eq (h : Turn s p q r) :
    r.offset = q.offset + (Text.width q.rest - Text.width (readRecord q.rest).2) := by
  obtain ⟨w, hw, -⟩ := readRecord_append q.rest
  have hwidth := congrArg Text.width hw
  rw [Text.width_append] at hwidth
  rw [offset_of_keeps h.line (h.line_rest ▸ hw)]
  omega

theorem atEnd_eq (h : Turn s p q r) :
    s.behindSpace.atEnd = decide (p.rest.dropWhile isSpace = []) := by
  rw [← h.space_rest, h.tracks.atEnd_eq, Position.atEnd, Position.rest, decide_eq_decide,
    List.drop_eq_nil_iff]
  have := h.tracks.index_le_length
  omega

/-- A record takes a unit at least. -/
theorem length_lt (h : Turn s p q r) (hmore : p.rest.dropWhile isSpace ≠ []) :
    r.release.2.rest.length < p.rest.length := by
  show r.rest.length < p.rest.length
  rw [h.line_rest, h.space_rest]
  exact length_behind_lt hmore

end Turn

/-- The loop over the lines of a script takes the records of the text to come. -/
theorem recordsWithin_eq (hs : Tracks s p) (ho : p.options = .standard) (hn : p.rest.length < n) :
    (recordsWithin n s).1 = readRecords p.offset p.rest := by
  induction n generalizing s p with
  | zero => exact absurd hn (Nat.not_lt_zero _)
  | succ n ih =>
    obtain ⟨q, r, hturn⟩ := exists_turn hs ho
    rw [recordsWithin_succ, turn_apply, hturn.atEnd_eq]
    simp only [decide_eq_true_eq]
    by_cases hnil : p.rest.dropWhile isSpace = []
    · rw [if_pos hnil, readRecords_of_nil hnil]
    · have hlt := hturn.length_lt hnil
      have hmore := ih hturn.tracks_next (hturn.options_eq.trans ho) (by omega)
      rw [if_neg hnil, hturn.agree.1, hmore,
        readRecords_of_ne_nil hturn.space_rest.symm (hturn.space_rest ▸ hnil) hturn.start_eq
          hturn.stop_eq, ← hturn.line_rest]
      rfl

theorem records_eq (text : List Char) : records text = readRecords 0 text :=
  recordsWithin_eq (Scanner.tracks_ofText text .standard) rfl (Nat.lt_succ_self _)

/-! ## Accounts -/

/-- Records account for a text that begins at an offset: whitespace, then what a record covers up to the
end of a line, and so on. What a record covers begins with no whitespace. -/
inductive Covers : Nat → List Char → List Record → Prop where
  | done {n : Nat} {space : List Char} (hspace : ∀ c ∈ space, isSpace c = true) : Covers n space []
  | more {n : Nat} {space rest : List Char} {c : Char} {w : List Char} {r : Record}
      {rs : List Record} (hspace : ∀ c ∈ space, isSpace c = true)
      (hstart : r.start = n + Text.width space) (hstop : r.stop = r.start + Text.width (c :: w))
      (hc : isSpace c = false) (hends : lineEnds rest = true)
      (hfailed : ∀ line, r.outcome = .failed line → c :: w = line ∧ '\n' ∉ line)
      (hrest : Covers r.stop rest rs) : Covers n (space ++ (c :: w ++ rest)) (r :: rs)

/-- What a record covers of a line that begins with no whitespace begins as the line does. -/
theorem readRecord_cons {c : Char} (hc : isSpace c = false) (cs : List Char) :
    ∃ w, c :: w ++ (readRecord (c :: cs)).2 = c :: cs ∧ lineEnds (readRecord (c :: cs)).2 = true ∧
      ∀ line, (readRecord (c :: cs)).1 = .failed line → c :: w = line ∧ '\n' ∉ line := by
  obtain ⟨w, hw, hends, hfailed⟩ := readRecord_append (c :: cs)
  have hlt := length_readRecord_lt hc cs
  cases w with
  | nil => exact absurd (congrArg List.length hw) (Nat.ne_of_lt hlt)
  | cons d w =>
    obtain rfl : d = c := (List.cons.inj hw).1
    exact ⟨w, hw, hends, hfailed⟩

theorem covers_readRecords (n : Nat) (cs : List Char) : Covers n cs (readRecords n cs) := by
  induction n, cs using readRecords.induct with
  | case1 n cs line hnil =>
    rw [readRecords_of_nil hnil]
    exact .done fun c hc => List.dropWhile_eq_nil_iff.mp hnil c hc
  | case2 n cs start line hne stop ih =>
    rw [readRecords_of_ne_nil rfl hne rfl rfl]
    obtain ⟨c, ds, hline⟩ : ∃ c ds, line = c :: ds := List.exists_cons_of_ne_nil hne
    have hc : isSpace c = false := head_dropWhile_isSpace hline
    obtain ⟨w, hw, hends, hfailed⟩ := readRecord_cons hc ds
    rw [← hline] at hw hends hfailed
    have hcs : cs.takeWhile isSpace ++ (c :: w ++ (readRecord line).2) = cs := by
      rw [hw]
      exact List.takeWhile_append_dropWhile
    have hwidth : Text.width line - Text.width (readRecord line).2 = Text.width (c :: w) := by
      have := congrArg Text.width hw
      rw [Text.width_append] at this
      omega
    have hcovers := Covers.more (n := n) (r := ⟨start, stop, (readRecord line).1⟩)
      (fun c hc => List.mem_takeWhile_imp hc) rfl (congrArg (start + ·) hwidth) hc hends hfailed ih
    rwa [hcs] at hcovers

/-- What a record covers of a text: a part that begins with no whitespace and goes to the end of a line.
A line that is given up is reported as it is. -/
structure Record.Within (r : Record) (text before w after : List Char) : Prop where
  text_eq : before ++ (w ++ after) = text
  start_eq : r.start = Text.width before
  stop_eq : r.stop = Text.width before + Text.width w
  begins : ∃ c ∈ w.head?, isSpace c = false
  ends : lineEnds after = true
  failed : ∀ line, r.outcome = .failed line → line = w ∧ '\n' ∉ line

/-- Records account for all of a text. -/
structure Accounted (text : List Char) (rs : List Record) : Prop where
  within : ∀ r ∈ rs, ∃ before w after, r.Within text before w after
  start_lt : ∀ r ∈ rs, r.start < r.stop
  ordered : rs.Pairwise fun r r' => r.stop ≤ r'.start
  /-- A character that no record covers is whitespace. -/
  outside : ∀ before c after, before ++ c :: after = text →
    (∀ r ∈ rs, r.start ≤ Text.width before → r.stop ≤ Text.width before) → isSpace c = true

namespace Covers

variable {n : Nat} {cs : List Char} {rs : List Record}

theorem within (h : Covers n cs rs) (before : List Char) (hn : n = Text.width before) :
    ∀ r ∈ rs, ∃ before' w after, r.Within (before ++ cs) before' w after := by
  induction h generalizing before with
  | done hspace => nofun
  | @more n space rest c w r rs hspace hstart hstop hc hends hfailed hrest ih =>
    have hstart' : r.start = Text.width (before ++ space) := by
      rw [hstart, hn, Text.width_append]
    intro r' hr'
    rcases List.mem_cons.mp hr' with rfl | hmem
    · refine ⟨before ++ space, c :: w, rest, by simp, hstart', hstart' ▸ hstop, ⟨c, rfl, hc⟩, hends,
        ?_⟩
      intro line hline
      exact (hfailed line hline).imp_left Eq.symm
    · have hwithin := ih (before ++ space ++ c :: w)
        (by rw [Text.width_append, ← hstart', hstop]) r' hmem
      rwa [List.append_assoc, List.append_assoc] at hwithin

theorem spans (h : Covers n cs rs) :
    Text.Spans isSpace n cs (rs.map fun r => (r.start, r.stop)) := by
  induction h with
  | done hspace => exact .done hspace
  | more hspace hstart hstop hc hends hfailed hrest ih =>
    exact .more hspace hstart hstop (List.cons_ne_nil _ _) ih

theorem accounted (h : Covers 0 cs rs) : Accounted cs rs where
  within := h.within [] rfl
  start_lt r hr := h.spans.start_lt _ (List.mem_map_of_mem hr)
  ordered := List.pairwise_map.mp h.spans.ordered
  outside before c after hcs hout := by
    refine h.spans.outside hcs fun x hx => ?_
    obtain ⟨r, hr, rfl⟩ := List.mem_map.mp hx
    simpa only [Nat.zero_add] using hout r hr

end Covers

theorem accounted_records (text : List Char) : Accounted text (records text) := by
  rw [records_eq]
  exact (covers_readRecords 0 text).accounted

end Script

end Rewind
