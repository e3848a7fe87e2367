import Rewind.Proofs.Script.Lines

/-! Quoted targets come back as they were. Quotes stand around texts in which a backslash takes the
character behind it along (`quotedBody_eq_some`), and any target becomes such a text when backslashes
are put into it, and is itself again when they are taken off. The line that fetches it is one record,
which ends where the line does (`fetchedBack`). -/
namespace Rewind.Script

/-- Puts a backslash before each quote and each backslash. -/
def addBackslashes : List Char → List Char
  | [] => []
  | c :: cs => if c = '"' ∨ c = '\\' then '\\' :: c :: addBackslashes cs else c :: addBackslashes cs

example : addBackslashes "a\"\\\nb".toList = "a\\\"\\\\\nb".toList := by decide

/-- What can stand between quotes. A quote in it has a backslash before it, and a backslash takes any
character along but the end of a line. -/
inductive Enclosed : List Char → Prop where
  | nil : Enclosed []
  | plain {c : Char} {cs : List Char} (hquote : c ≠ '"') (hbackslash : c ≠ '\\')
      (hcs : Enclosed cs) : Enclosed (c :: cs)
  | escaped {c : Char} {cs : List Char} (hc : c ≠ '\n') (hcs : Enclosed cs) :
      Enclosed ('\\' :: c :: cs)

/-! ## Backslashes -/

theorem stripBackslashes_cons {c : Char} (hc : c ≠ '\\') (cs : List Char) :
    stripBackslashes (c :: cs) = c :: stripBackslashes cs := by
  rw [stripBackslashes]
  · rintro rfl
    exact absurd rfl hc
  · rintro d ds rfl
    exact absurd rfl hc

theorem stripBackslashes_addBackslashes (cs : List Char) :
    stripBackslashes (addBackslashes cs) = cs := by
  induction cs with
  | nil => rfl
  | cons c cs ih =>
    rw [addBackslashes]
    split
    · rw [stripBackslashes, ih]
    · next h =>
      rw [stripBackslashes_cons fun hc => h (.inr hc), ih]

theorem enclosed_addBackslashes (cs : List Char) : Enclosed (addBackslashes cs) := by
  induction cs with
  | nil => exact .nil
  | cons c cs ih =>
    rw [addBackslashes]
    split
    · next h =>
      refine .escaped ?_ ih
      rintro rfl
      simp at h
    · next h =>
      exact .plain (fun hc => h (.inl hc)) (fun hc => h (.inr hc)) ih

/-! ## Between the quotes -/

theorem Enclosed.quotedBody_eq {body : List Char} (h : Enclosed body) (rest : List Char) :
    quotedBody false (body ++ '"' :: rest) = some (body, rest) := by
  induction h with
  | nil => rfl
  | @plain c cs hquote hbackslash _ ih =>
    rw [List.cons_append, quotedBody, if_neg Bool.false_ne_true, if_neg hquote,
      decide_eq_false hbackslash, ih]
    rfl
  | @escaped c cs hc _ ih =>
    show (quotedBody true (c :: (cs ++ '"' :: rest))).map _ = _
    rw [quotedBody, if_pos rfl, if_neg hc, ih]
    rfl

/-- What is read is enclosed, with the backslash before it if there is one. -/
theorem enclosed_of_quotedBody {escaped : Bool} {cs body rest : List Char}
    (h : quotedBody escaped cs = some (body, rest)) :
    Enclosed (if escaped then '\\' :: body else body) := by
  induction cs generalizing escaped body with
  | nil => cases h
  | cons c cs ih =>
    rw [quotedBody] at h
    cases escaped with
    | true =>
      obtain ⟨hc, hmore⟩ := Option.ite_none_left_eq_some.mp h
      obtain ⟨x, hx, hout⟩ := Option.map_eq_some_iff.mp hmore
      cases hout
      exact .escaped hc (ih hx)
    | false =>
      rw [if_neg Bool.false_ne_true] at h
      split at h
      · cases h
        exact .nil
      · next hquote =>
        obtain ⟨x, hx, hout⟩ := Option.map_eq_some_iff.mp h
        cases hout
        have henclosed := ih hx
        by_cases hc : c = '\\'
        · subst hc
          exact henclosed
        · rw [decide_eq_false hc] at henclosed
          exact .plain hquote hc henclosed

/-- A quoted text goes up to the first quote that no backslash takes along. -/
theorem quotedBody_eq_some {cs body rest : List Char} :
    quotedBody false cs = some (body, rest) ↔ Enclosed body ∧ body ++ '"' :: rest = cs := by
  constructor
  · intro h
    exact ⟨enclosed_of_quotedBody h, quotedBody_append h⟩
  · rintro ⟨hbody, rfl⟩
    exact hbody.quotedBody_eq rest

/-- Between quotes the pattern finds what is enclosed, wherever the opening one stands in a text. -/
theorem Enclosed.applyAt?_quoted {body : List Char} (h : Enclosed body)
    (before rest : List Char) :
    ∃ m, quoted.applyAt? (before ++ '"' :: (body ++ '"' :: rest)) (Text.width before) = some m ∧
      m.stop = Text.width (before ++ '"' :: (body ++ ['"'])) ∧ m.get? 1 = some body := by
  have hsearch : ∀ b, quoted.program.search b (Text.width before) ('"' :: (body ++ '"' :: rest)) =
      some ⟨Text.width before + 1 + Text.width body + 1,
        [(1, Text.width before + 1, Text.width before + 1 + Text.width body)]⟩ := by
    intro b
    rw [search_quoted, readQuoted, if_pos rfl, h.quotedBody_eq]
    rfl
  refine ⟨_, quoted.applyAt?_append before _ hsearch, ?_, ?_⟩
  · show Text.width before + 1 + Text.width body + 1 = _
    rw [Text.width_append, Text.width, Text.width_append, Nat.add_assoc, Nat.add_assoc]
    rfl
  · have hopened : Text.width (before ++ ['"']) = Text.width before + 1 := Text.width_append ..
    have hslice := Text.slice_append (before ++ ['"']) body ('"' :: rest)
    rw [hopened, List.append_assoc] at hslice
    exact congrArg some hslice

/-! ## The line of a target -/

/-- A word ends before blanks. -/
theorem Blanks.head?_append {bs : List Char} (hbs : Blanks bs) (hne : bs ≠ []) (cs : List Char) :
    (bs ++ cs).head?.any isWordUnit = false := by
  obtain ⟨b, bs, rfl⟩ := List.exists_cons_of_ne_nil hne
  have hb : b = ' ' ∨ b = '\t' := by simpa [isBlank] using hbs b List.mem_cons_self
  rw [List.cons_append, List.head?_cons, Option.any_some]
  rcases hb with rfl | rfl
  · exact isWordUnit_of_mem ' ' (by simp)
  · exact isWordUnit_of_mem '\t' (by simp)

theorem Blanks.takeWhile_append_ne_nil {bs : List Char} (hbs : Blanks bs) (hne : bs ≠ [])
    (cs : List Char) : (bs ++ cs).takeWhile isBlank ≠ [] := by
  rw [List.takeWhile_append_of_pos hbs]
  exact List.append_ne_nil_of_left_ne_nil hne _

theorem readKeyword_append {word cs : List Char} (h : cs.head?.any isWordUnit = false) :
    readKeyword word (word ++ cs) = some ((), cs) := by
  rw [readKeyword, List.drop_left, if_pos ⟨List.prefix_append .., h⟩]

/-- The line that fetches a target: blanks before it, its quoted form, and blanks behind it. -/
def fetchText (before target after : List Char) : List Char :=
  "fetch".toList ++ (before ++ '"' :: (addBackslashes target ++ '"' :: after))

section

variable {before after rest : List Char} (target : List Char)

theorem readFetch_fetchText (hne : before ≠ []) (hbefore : Blanks before) :
    readFetch (fetchText before target after ++ rest) = some (.fetch target, after ++ rest) := by
  have htext : fetchText before target after ++ rest = "fetch".toList ++
      (before ++ '"' :: (addBackslashes target ++ '"' :: (after ++ rest))) := by
    show "fetch".toList ++ (before ++ '"' :: (addBackslashes target ++ '"' :: after)) ++ rest = _
    simp only [List.append_assoc, List.cons_append]
  have hquote : isBlank '"' = false := by decide
  rw [htext, readFetch, readKeyword_append (hbefore.head?_append hne _), Option.bind_some,
    if_neg (hbefore.takeWhile_append_ne_nil hne _), skip_append hbefore, skip_cons hquote, readTarget,
    readQuoted, if_pos rfl, (enclosed_addBackslashes target).quotedBody_eq]
  simp only [stripBackslashes_addBackslashes]

theorem readRecord_fetchText (hne : before ≠ []) (hbefore : Blanks before) (hafter : Blanks after)
    (hends : lineEnds rest = true) :
    readRecord (fetchText before target after ++ rest) = (.parsed (.fetch target), rest) := by
  have hskip : skip (after ++ rest) = rest := by
    rw [skip_append hafter]
    cases rest with
    | nil => rfl
    | cons c cs =>
      obtain rfl : c = '\n' := by simpa [lineEnds] using hends
      exact skip_cons isBlank_newline cs
  have hstatement : readStatement (fetchText before target after ++ rest) =
      some (.fetch target, after ++ rest) :=
    readStatement_eq_some.mpr (.inl (readFetch_fetchText target hne hbefore))
  rw [readRecord, readLine, hstatement, Option.bind_some, hskip, if_pos hends]

/-- The line is one record up to its end. What is behind it is recorded as if nothing stood before it,
that much further on. -/
theorem records_fetchText (hne : before ≠ []) (hbefore : Blanks before) (hafter : Blanks after)
    (hends : lineEnds rest = true) :
    records (fetchText before target after ++ rest) =
      ⟨0, Text.width (fetchText before target after), .parsed (.fetch target)⟩ ::
        (records rest).map (Record.shift (Text.width (fetchText before target after))) := by
  have hrecord := readRecord_fetchText target hne hbefore hafter hends
  have hwidth := Text.width_append (fetchText before target after) rest
  obtain ⟨cs, hcons⟩ : ∃ cs, fetchText before target after ++ rest = 'f' :: cs := ⟨_, rfl⟩
  rw [hcons] at hrecord hwidth
  have hfirst : ¬isSpace 'f' = true := by decide
  have hstart : 0 = 0 + Text.width (('f' :: cs).takeWhile isSpace) := by
    rw [List.takeWhile_cons_of_neg hfirst]
    rfl
  have hstop : Text.width (fetchText before target after) =
      0 + (Text.width ('f' :: cs) - Text.width (readRecord ('f' :: cs)).2) := by
    rw [hrecord]
    show _ = 0 + (_ - Text.width rest)
    omega
  rw [records_eq, records_eq, hcons, readRecords_of_ne_nil (List.dropWhile_cons_of_neg hfirst)
    (List.cons_ne_nil 'f' cs) hstart hstop, hrecord, ← readRecords_add, Nat.zero_add]

end

/-- A target comes back from between its quotes. -/
structure FetchedBack (target : List Char) : Prop where
  strips : stripBackslashes (addBackslashes target) = target
  enclosed : Enclosed (addBackslashes target)
  /-- The pattern stops at the first quote that no backslash takes along. -/
  stops : ∀ before body rest, Enclosed body →
    ∃ m, quoted.applyAt? (before ++ '"' :: (body ++ '"' :: rest)) (Text.width before) = some m ∧
      m.stop = Text.width (before ++ '"' :: (body ++ ['"'])) ∧ m.get? 1 = some body
  /-- Its line is the first record of a script, up to the end of the script or of the line. -/
  records_eq : ∀ before after rest, before ≠ [] → Blanks before → Blanks after →
    lineEnds rest = true → records (fetchText before target after ++ rest) =
      ⟨0, Text.width (fetchText before target after), .parsed (.fetch target)⟩ ::
        (records rest).map (Record.shift (Text.width (fetchText before target after)))

/-- Any target comes back, with quotes, backslashes and ends of lines in it or with nothing in it. -/
theorem fetchedBack (target : List Char) : FetchedBack target where
  strips := stripBackslashes_addBackslashes target
  enclosed := enclosed_addBackslashes target
  stops before _ rest hbody := hbody.applyAt?_quoted before rest
  records_eq _ _ _ hne hbefore hafter hends := records_fetchText target hne hbefore hafter hends

end Rewind.Script
