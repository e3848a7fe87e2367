import Rewind.Proofs.Pattern.Classes
import Rewind.Proofs.Script.Records

/-! Lines of scripts are read one by one. No reading but that of a quoted text goes over the end of a
line. What is read of a text without quotes is therefore the same when a line end and more text is put
behind it, at any depth of an expression (`KeepsToLines`). The records of two texts with a line end
between them are those of the one and then those of the other (`records_append_line`). -/
namespace Rewind.Script

/-! ## The end of a line -/

theorem isBlank_newline : isBlank '\n' = false := by decide

/-- An end of a line belongs to no lexeme. -/
theorem separates_newline : Separates '\n' := separates_of_mem '\n' (by simp)

theorem isWordUnit_eq (c : Char) : isWordUnit c = Options.wordSet.contains c :=
  Program.search_one Options.wordSet c

/-- Ends of lines and blanks are not in the class of words. -/
theorem isWordUnit_of_mem : ∀ c ∈ ['\n', ' ', '\t'], isWordUnit c = false := by
  have hall : (['\n', ' ', '\t'].all fun c => !Unicode.letter.contains c &&
      !Unicode.decimalDigit.contains c && !(CharSet.singleton '_').contains c &&
      !(CharSet.singleton '$').contains c) = true := by decide +kernel
  intro c hc
  have hnone := List.all_eq_true.mp hall c hc
  simp only [Bool.and_eq_true, Bool.not_eq_true'] at hnone
  obtain ⟨⟨⟨hletter, hdigit⟩, hline⟩, hdollar⟩ := hnone
  rw [isWordUnit_eq, Options.wordSet, CharSet.contains_union, CharSet.contains_union,
    CharSet.contains_union, hletter, hdigit, hline, hdollar]
  rfl

theorem isWordUnit_newline : isWordUnit '\n' = false := isWordUnit_of_mem '\n' (by simp)

section

variable {f : Char → Bool} (hf : f '\n' = false) (cs b : List Char)

include hf

theorem takeWhile_newline : (cs ++ '\n' :: b).takeWhile f = cs.takeWhile f := by
  induction cs with
  | nil => exact List.takeWhile_cons_of_neg (by simp [hf])
  | cons c cs ih => simp only [List.cons_append, List.takeWhile_cons, ih]

theorem dropWhile_newline : (cs ++ '\n' :: b).dropWhile f = cs.dropWhile f ++ '\n' :: b := by
  induction cs with
  | nil => exact List.dropWhile_cons_of_neg (by simp [hf])
  | cons c cs ih =>
    simp only [List.cons_append, List.dropWhile_cons, ih]
    split <;> rfl

theorem any_head?_newline : (cs ++ '\n' :: b).head?.any f = cs.head?.any f := by
  cases cs with
  | nil => simpa using hf
  | cons c cs => rfl

end

theorem skip_newline (cs b : List Char) : skip (cs ++ '\n' :: b) = skip cs ++ '\n' :: b :=
  dropWhile_newline isBlank_newline cs b

/-- A first part without line ends does not reach over the one that was put in. -/
theorem split_newline {w t cs b : List Char} (h : w ++ t = cs ++ '\n' :: b) (hw : '\n' ∉ w) :
    ∃ rest, w ++ rest = cs ∧ t = rest ++ '\n' :: b := by
  rcases Text.append_cons_cases h.symm with ⟨more, rfl⟩ | ⟨rest, rfl, rfl⟩
  · simp at hw
  · exact ⟨rest, rfl, rfl⟩

theorem prefix_newline {w cs b : List Char} (hw : '\n' ∉ w) :
    w <+: cs ++ '\n' :: b ↔ w <+: cs := by
  refine ⟨fun ⟨t, ht⟩ => ?_, fun h => h.trans (List.prefix_append ..)⟩
  obtain ⟨rest, hrest, -⟩ := split_newline ht hw
  exact ⟨rest, hrest⟩

/-! ## Readings of a line -/

variable {α β : Type} {cs : List Char}

/-- What was read, with a line end and more text behind what is left. -/
def lineBehind (b : List Char) (x : α × List Char) : α × List Char := (x.1, x.2 ++ '\n' :: b)

/-- A line end and more text behind a text change nothing but what is left. -/
def KeepsToLines (read : Reading α) (cs : List Char) : Prop :=
  ∀ b, read (cs ++ '\n' :: b) = (read cs).map (lineBehind b)

/-- A reading goes on in what is left by one that keeps to lines. -/
theorem KeepsToLines.bind {read : Reading β} {next : β × List Char → Option (α × List Char)}
    (h : KeepsToLines read cs)
    (hnext : ∀ x, read cs = some x → ∀ b, next (lineBehind b x) = (next x).map (lineBehind b)) :
    KeepsToLines (fun cs => (read cs).bind next) cs := by
  intro b
  show (read _).bind next = ((read cs).bind next).map _
  rw [h b]
  cases hread : read cs with
  | none => rfl
  | some x => exact hnext x hread b

theorem keepsToLines_readUnit {c : Char} (hc : c ≠ '\n') (cs : List Char) :
    KeepsToLines (readUnit c) cs := by
  intro b
  cases cs with
  | nil => exact if_neg hc.symm
  | cons d cs =>
    simp only [List.cons_append, readUnit]
    split <;> rfl

theorem identifier_newline (cs b : List Char) : identifier (cs ++ '\n' :: b) = identifier cs := by
  cases cs with
  | nil => exact if_neg (t := '\n' :: b) (ne_true_of_eq_false separates_newline.2.2.1)
  | cons c cs =>
    rw [List.cons_append, identifier, identifier, takeWhile_newline separates_newline.2.2.2]

theorem keepsToLines_readKeyword {word : List Char} (hword : '\n' ∉ word) (cs : List Char) :
    KeepsToLines (readKeyword word) cs := by
  intro b
  simp only [readKeyword, prefix_newline hword]
  by_cases hpre : word <+: cs
  · obtain ⟨rest, rfl⟩ := hpre
    simp only [List.append_assoc, List.drop_left, any_head?_newline isWordUnit_newline]
    split <;> rfl
  · simp only [hpre, false_and, if_false]
    rfl

/-! ## Expressions -/

theorem Blanks.not_mem_newline {bs : List Char} (h : Blanks bs) : '\n' ∉ bs := by
  intro hmem
  have hblank := h _ hmem
  rw [isBlank_newline] at hblank
  cases hblank

theorem Tier.Has.ne_newline {t : Tier} {op : Char} (h : t.Has op) : op ≠ '\n' := by
  cases t with
  | product => rcases h with rfl | rfl <;> decide
  | sum => rcases h with rfl | rfl <;> decide

/-- An expression is all in one line. -/
theorem Derives.not_mem_newline {l : Level} {w : List Char} {e : Expr} {last : Option (List Char)}
    (h : Derives l w e last) : '\n' ∉ w := by
  induction h with
  | number hx => exact separates_newline.not_mem_numeral hx
  | name hx => exact separates_newline.not_mem_identifier hx
  | parens hbefore hw hafter ih => simp [hbefore.not_mem_newline, ih, hafter.not_mem_newline]
  | one hw ih => exact ih
  | more hv hbefore hop hafter hw ihv ihw =>
    simp [ihv, hbefore.not_mem_newline, hop.ne_newline.symm, hafter.not_mem_newline, ihw]

theorem continues_newline {kind : List Char → Prop} (hkind : ∀ x, kind x → '\n' ∉ x)
    {x rest b : List Char} : Continues kind x (rest ++ '\n' :: b) ↔ Continues kind x rest := by
  constructor
  · rintro ⟨q, hne, hpre, hq⟩
    have hnot : '\n' ∉ q := fun hmem => hkind _ hq (List.mem_append_right x hmem)
    exact ⟨q, hne, (prefix_newline hnot).mp hpre, hq⟩
  · rintro ⟨q, hne, hpre, hq⟩
    exact ⟨q, hne, hpre.trans (List.prefix_append ..), hq⟩

theorem extends_newline {last : Option (List Char)} {rest b : List Char} :
    Extends last (rest ++ '\n' :: b) ↔ Extends last rest := by
  simp only [Extends, continues_newline fun _ => separates_newline.not_mem_numeral,
    continues_newline fun _ => separates_newline.not_mem_identifier]

theorem noneNext_newline {ops rest b : List Char} (hops : '\n' ∉ ops) :
    NoneNext ops (rest ++ '\n' :: b) ↔ NoneNext ops rest := by
  rw [NoneNext, NoneNext, dropWhile_newline isBlank_newline]
  cases rest.dropWhile isBlank with
  | nil => simp [hops]
  | cons c cs => rfl

/-- What derives is in one line, and nothing behind the line can make more of it. -/
theorem keepsToLines_readExpression (cs : List Char) : KeepsToLines readExpression cs := by
  intro b
  have hops : '\n' ∉ (Level.chain .sum).operators := by decide
  cases hread : readExpression (cs ++ '\n' :: b) with
  | some x =>
    obtain ⟨w, last, hw, hderives, hend, hnext⟩ := sound_readExpression _ _ _ hread
    obtain ⟨rest, rfl, hrest⟩ := split_newline hw hderives.not_mem_newline
    rw [hrest] at hend hnext
    rw [hderives.readExpression_eq (mt extends_newline.mpr hend) ((noneNext_newline hops).mp hnext)]
    exact congrArg some (Prod.ext rfl hrest)
  | none =>
    cases hread' : readExpression cs with
    | none => rfl
    | some x =>
      obtain ⟨w, last, rfl, hderives, hend, hnext⟩ := sound_readExpression _ _ _ hread'
      rw [List.append_assoc, hderives.readExpression_eq (mt extends_newline.mp hend)
        ((noneNext_newline hops).mpr hnext)] at hread
      cases hread

/-! ## Statements -/

theorem readQuoted_of_head?_ne (h : cs.head? ≠ some '"') : readQuoted cs = none := by
  cases cs with
  | nil => rfl
  | cons c cs =>
    rw [readQuoted, if_neg]
    rintro rfl
    exact h rfl

/-- Without a quote there is no text in quotes, which alone could go over the end of a line. -/
theorem keepsToLines_readTarget (h : '"' ∉ cs) : KeepsToLines readTarget cs := by
  intro b
  have hquoted : readQuoted cs = none :=
    readQuoted_of_head?_ne fun hhead => h (List.mem_of_head? hhead)
  have hquoted' : readQuoted (cs ++ '\n' :: b) = none := by
    refine readQuoted_of_head?_ne fun hhead => ?_
    cases cs with
    | nil => cases hhead
    | cons c cs => exact h (List.mem_of_head? hhead)
  have hspace : (!isSpace '\n') = false := by decide
  rw [readTarget, readTarget, hquoted, hquoted']
  simp only [takeWhile_newline (f := fun c => !isSpace c) hspace,
    dropWhile_newline (f := fun c => !isSpace c) hspace]
  split <;> rfl

theorem keepsToLines_readAssignment (cs : List Char) : KeepsToLines readAssignment cs := by
  intro b
  have hname : (identifier cs).length ≤ cs.length := (identifier_begins cs).length_le
  simp only [readAssignment, identifier_newline, List.drop_append_of_le_length hname, skip_newline]
  split
  · rfl
  · refine (keepsToLines_readUnit (by decide) _).bind (fun x _ b => ?_) b
    show (readExpression (skip (x.2 ++ '\n' :: b))).map _ = _
    rw [skip_newline, keepsToLines_readExpression, Option.map_map, Option.map_map]
    rfl

theorem keepsToLines_readFetch (h : '"' ∉ cs) : KeepsToLines readFetch cs := by
  refine (keepsToLines_readKeyword (by decide) cs).bind fun x hx b => ?_
  have hx2 : '"' ∉ x.2 := fun hmem => h ((readKeyword_suffix hx List.suffix_rfl).1.mem hmem)
  have hskip : '"' ∉ skip x.2 := fun hmem => hx2 ((List.dropWhile_suffix _).mem hmem)
  simp only [lineBehind, takeWhile_newline isBlank_newline, skip_newline]
  split
  · rfl
  · exact keepsToLines_readTarget hskip b

theorem keepsToLines_readSet (cs : List Char) : KeepsToLines readSet cs := by
  refine (keepsToLines_readKeyword (by decide) cs).bind fun x _ b => ?_
  simp only [lineBehind, skip_newline]
  exact keepsToLines_readAssignment (skip x.2) b

theorem keepsToLines_readStatement (h : '"' ∉ cs) : KeepsToLines readStatement cs := by
  intro b
  rw [readStatement, readStatement, keepsToLines_readFetch h, keepsToLines_readSet]
  cases readFetch cs <;> rfl

theorem lineEnds_newline (cs b : List Char) : lineEnds (cs ++ '\n' :: b) = lineEnds cs := by
  cases cs <;> rfl

theorem keepsToLines_readLine (h : '"' ∉ cs) : KeepsToLines readLine cs := by
  refine (keepsToLines_readStatement h).bind fun x _ b => ?_
  simp only [lineBehind, skip_newline, lineEnds_newline]
  split <;> rfl

theorem readRecord_newline (h : '"' ∉ cs) (b : List Char) :
    readRecord (cs ++ '\n' :: b) = lineBehind b (readRecord cs) := by
  have hstop : decide ('\n' ≠ '\n') = false := by decide
  rw [readRecord, readRecord, keepsToLines_readLine h]
  cases readLine cs with
  | some x => rfl
  | none =>
    show (Outcome.failed _, _) = (Outcome.failed _, _)
    rw [takeWhile_newline hstop, dropWhile_newline hstop]

/-! ## Records -/

/-- A record of a text, that of a text with something before it. -/
def Record.shift (k : Nat) (r : Record) : Record :=
  { r with start := r.start + k, stop := r.stop + k }

theorem readRecords_add (k n : Nat) (cs : List Char) :
    readRecords (n + k) cs = (readRecords n cs).map (Record.shift k) := by
  induction n, cs using readRecords.induct with
  | case1 n cs line hnil => rw [readRecords_of_nil hnil, readRecords_of_nil hnil, List.map_nil]
  | case2 n cs start line hne stop ih =>
    have hstart : start + k = n + k + Text.width (cs.takeWhile isSpace) := by omega
    have hstop : stop + k = start + k + (Text.width line - Text.width (readRecord line).2) := by
      omega
    rw [readRecords_of_ne_nil rfl hne hstart hstop, ih, readRecords_of_ne_nil (n := n) rfl hne rfl rfl]
    rfl

/-- Whitespace before a text moves its records. -/
theorem readRecords_space {space : List Char} (h : ∀ c ∈ space, isSpace c = true) (n : Nat)
    (cs : List Char) : readRecords n (space ++ cs) = readRecords (n + Text.width space) cs := by
  have hdrop : (space ++ cs).dropWhile isSpace = cs.dropWhile isSpace :=
    List.dropWhile_append_of_pos h
  by_cases hnil : cs.dropWhile isSpace = []
  · rw [readRecords_of_nil hnil, readRecords_of_nil (hdrop.trans hnil)]
  · have hstart : n + Text.width space + Text.width (cs.takeWhile isSpace) =
        n + Text.width ((space ++ cs).takeWhile isSpace) := by
      rw [List.takeWhile_append_of_pos h, Text.width_append, Nat.add_assoc]
    rw [readRecords_of_ne_nil hdrop hnil hstart rfl, readRecords_of_ne_nil rfl hnil rfl rfl]

/-- Text behind a line changes nothing before it. -/
theorem space_append {cs : List Char} (h : cs.dropWhile isSpace ≠ []) (more : List Char) :
    (cs ++ more).takeWhile isSpace = cs.takeWhile isSpace ∧
      (cs ++ more).dropWhile isSpace = cs.dropWhile isSpace ++ more := by
  have hdrop : (cs ++ more).dropWhile isSpace = cs.dropWhile isSpace ++ more := by
    rw [List.dropWhile_append, if_neg (mt List.isEmpty_iff.mp h)]
  have hall : (cs ++ more).takeWhile isSpace ++ (cs.dropWhile isSpace ++ more) =
      cs.takeWhile isSpace ++ (cs.dropWhile isSpace ++ more) := by
    rw [← hdrop, List.takeWhile_append_dropWhile, hdrop, ← List.append_assoc,
      List.takeWhile_append_dropWhile]
  exact ⟨List.append_cancel_right hall, hdrop⟩

theorem readRecords_append_line {a : List Char} (ha : '"' ∉ a) (n : Nat) (b : List Char) :
    readRecords n (a ++ '\n' :: b) = readRecords n a ++ readRecords (n + Text.width a + 1) b := by
  induction n, a using readRecords.induct with
  | case1 n a line hnil =>
    have hspace : ∀ c ∈ a ++ ['\n'], isSpace c = true := by
      intro c hc
      rcases List.mem_append.mp hc with hmem | hmem
      · exact List.dropWhile_eq_nil_iff.mp hnil c hmem
      · rw [List.mem_singleton.mp hmem, isSpace_newline]
    have hwidth : Text.width (a ++ ['\n']) = Text.width a + 1 := Text.width_append ..
    rw [List.append_cons, readRecords_space hspace, readRecords_of_nil hnil, hwidth]
    rfl
  | case2 n a start line hne stop ih =>
    obtain ⟨w, hw, -⟩ := readRecord_append line
    have ha' : a.takeWhile isSpace ++ line = a := List.takeWhile_append_dropWhile
    have hline : '"' ∉ line := fun hmem => ha (ha' ▸ List.mem_append_right _ hmem)
    have hrest : '"' ∉ (readRecord line).2 := fun hmem => hline (hw ▸ List.mem_append_right _ hmem)
    obtain ⟨htake, hdrop⟩ := space_append hne ('\n' :: b)
    have hwidth : Text.width line = Text.width w + Text.width (readRecord line).2 := by
      rw [← Text.width_append, hw]
    have hwidth' : Text.width a = Text.width (a.takeWhile isSpace) + Text.width line := by
      rw [← Text.width_append, ha']
    have hstop : stop = start + (Text.width (line ++ '\n' :: b) -
        Text.width (readRecord (line ++ '\n' :: b)).2) := by
      rw [readRecord_newline hline, lineBehind, Text.width_append, Text.width_append]
      show start + _ = _
      omega
    rw [readRecords_of_ne_nil hdrop (by simp) (htake ▸ rfl) hstop, readRecord_newline hline,
      readRecords_of_ne_nil (n := n) rfl hne rfl rfl]
    have hend : stop + Text.width (readRecord line).2 + 1 = n + Text.width a + 1 := by omega
    rw [← hend]
    exact congrArg (_ :: ·) (ih hrest)

/-- The records of two texts with a line end between them. No line of the first one, however it fails,
changes what becomes of another, unless a quote in it goes over its end. -/
theorem records_append_line {a : List Char} (ha : '"' ∉ a) (b : List Char) :
    records (a ++ '\n' :: b) = records a ++ (records b).map (Record.shift (Text.width a + 1)) := by
  rw [records_eq, records_eq, records_eq, readRecords_append_line ha, ← readRecords_add, Nat.add_assoc]

/-- Only the line that fails is lost. A target over two lines and a line that fails, behind it, are the
records that they are alone, all of their offsets moved. -/
theorem records_append_line_malformed :
    '"' ∉ "set x = 1 +\nset y = 2".toList ∧
      records "set x = 1 +\nset y = 2".toList =
        [⟨0, 11, .failed "set x = 1 +".toList⟩, ⟨12, 21, .parsed (.set ['y'] (.number ['2']))⟩] ∧
      records "fetch \"a\nb\"\n(".toList =
        [⟨0, 11, .parsed (.fetch "a\nb".toList)⟩, ⟨12, 13, .failed ['(']⟩] ∧
      records "set x = 1 +\nset y = 2\nfetch \"a\nb\"\n(".toList =
        [⟨0, 11, .failed "set x = 1 +".toList⟩, ⟨12, 21, .parsed (.set ['y'] (.number ['2']))⟩,
          ⟨22, 33, .parsed (.fetch "a\nb".toList)⟩, ⟨34, 35, .failed ['(']⟩] := by
  obtain ⟨hfirst, hsecond⟩ :
      records "set x = 1 +\nset y = 2".toList =
        [⟨0, 11, .failed "set x = 1 +".toList⟩, ⟨12, 21, .parsed (.set ['y'] (.number ['2']))⟩] ∧
      records "fetch \"a\nb\"\n(".toList =
        [⟨0, 11, .parsed (.fetch "a\nb".toList)⟩, ⟨12, 13, .failed ['(']⟩] := by
    decide +kernel
  have hquote : '"' ∉ "set x = 1 +\nset y = 2".toList := by decide
  refine ⟨hquote, hfirst, hsecond, ?_⟩
  have happend := records_append_line hquote "fetch \"a\nb\"\n(".toList
  rw [hfirst, hsecond] at happend
  exact happend

end Rewind.Script
