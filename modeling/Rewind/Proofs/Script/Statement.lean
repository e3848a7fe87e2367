import Rewind.Proofs.Scanner.Attempts
import Rewind.Proofs.Script.Grammar
import Rewind.Proofs.Script.Quoted
import Rewind.Script.Record

/-! Statements and records as readings. A scanner whose classes are the standard ones takes from the
text to come what the function beside each rule takes, and no attempt of a statement is ever stranded. -/
namespace Rewind

open Scanner (Tracks Agree)

namespace Rule

variable {α β : Type} {s : Scanner} {p : Position}

/-- How an attempt of a rule with an outcome ends. -/
def settled : Option (α × List Char) → Attempt α
  | some x => .accepted x.1
  | none => .rejected

/-- An attempt brings the text to come back where its rule fails. -/
theorem Yields.attempt {rule : Rule α} {out : Option (α × List Char)} (h : rule.Yields s p out)
    (hs : Tracks s p) :
    ∃ q, Agree (s.attempt rule) (settled out, q) ∧ p.Keeps q ∧
      q.rest = (out.map Prod.snd).getD p.rest := by
  obtain ⟨q, hq, hpq, hrest⟩ := h
  cases out with
  | some x =>
    have hattempt : s.attempt rule = (.accepted x.1, (rule s).2) := by
      simp only [Scanner.attempt, hq.1]
      rfl
    exact ⟨q, ⟨congrArg Prod.fst hattempt, by rw [hattempt]; exact hq.2⟩, hpq, hrest x rfl⟩
  | none =>
    have hknows : q.Knows s.here := by
      rw [hs.here_eq]
      exact hs.knows_here.of_le hpq.text_eq hpq.le_high
    have hlow : q.low ≤ s.here.cursor := by
      rw [hs.here_eq, hpq.low_eq]
      exact hs.low_le
    obtain ⟨u, hu, htracks⟩ := hq.2.settle_rejected (α := α) hknows hlow
    have hattempt : s.attempt rule = (.rejected, u) := by
      simp only [Scanner.attempt, hq.1]
      exact hu
    have hindex : s.here.cursor = p.index := hs.cursor_eq
    refine ⟨q.goTo p.index, ⟨congrArg Prod.fst hattempt, ?_⟩, hpq.trans (.goTo q _), ?_⟩
    · rw [hattempt, ← hindex]
      exact htracks
    · show q.text.drop p.index = p.rest
      rw [hpq.text_eq]
      rfl

/-- An attempt as a rule. -/
theorem Yields.recovers {rule : Rule α} {out : Option (α × List Char)} (h : rule.Yields s p out)
    (hs : Tracks s p) : rule.attempt.Recovers s p out := by
  obtain ⟨q, ⟨hout, hq⟩, hpq, hrest⟩ := h.attempt hs
  refine ⟨q, hpq, ⟨?_, hq⟩, hrest⟩
  show (s.attempt rule).1.get? = _
  rw [hout]
  cases out <;> rfl

theorem yields_require {scan : Scan Bool} {b : Bool} {q : Position} (h : Agree (scan s) (b, q))
    (hpq : p.Keeps q) :
    (Rule.require scan).Yields s p (if b then some ((), q.rest) else none) := by
  refine scan_bind h hpq fun t ht => ?_
  cases b with
  | true => exact yields_pure ht ()
  | false => exact reads_failure t q ht

end Rule

namespace Script

variable {s : Scanner} {p : Position}

def isSpace (c : Char) : Bool := Unicode.whitespace.contains c

def isWordUnit : Char → Bool := Options.standard.word.matchesOne

/-- A word that does not go on. -/
def readKeyword (word : List Char) : Reading Unit := fun cs =>
  if word <+: cs ∧ (cs.drop word.length).head?.any isWordUnit = false then
    some ((), cs.drop word.length)
  else none

/-- What stands behind the blanks of `fetch`: a quoted text, or all up to the next whitespace. -/
def readTarget : Reading Statement := fun cs =>
  match readQuoted cs with
  | some x => some (.fetch (stripBackslashes x.1), x.2)
  | none =>
    if cs.takeWhile (fun c => !isSpace c) = [] then none
    else some (.fetch (cs.takeWhile fun c => !isSpace c), cs.dropWhile fun c => !isSpace c)

def readFetch : Reading Statement := fun cs =>
  (readKeyword "fetch".toList cs).bind fun x =>
    if x.2.takeWhile isBlank = [] then none else readTarget (skip x.2)

def readAssignment : Reading Statement := fun cs =>
  if identifier cs = [] then none
  else
    (readUnit '=' (skip (cs.drop (identifier cs).length))).bind fun x =>
      (readExpression (skip x.2)).map fun y => (.set (identifier cs) y.1, y.2)

def readSet : Reading Statement := fun cs =>
  (readKeyword "set".toList cs).bind fun x => readAssignment (skip x.2)

def readStatement : Reading Statement := fun cs => readFetch cs <|> readSet cs

def lineEnds (cs : List Char) : Bool := cs.head?.all (· = '\n')

/-- A statement and the blanks behind it, up to the end of the line. -/
def readLine : Reading Statement := fun cs =>
  (readStatement cs).bind fun x => if lineEnds (skip x.2) then some (x.1, skip x.2) else none

/-- What becomes of the next line, and what is left behind it. -/
def readRecord (cs : List Char) : Outcome × List Char :=
  match readLine cs with
  | some x => (.parsed x.1, x.2)
  | none => (.failed (cs.takeWhile (· ≠ '\n')), cs.dropWhile (· ≠ '\n'))

/-! ## Rules are readings -/

/-- A keyword is taken, or else the text to come is as it was. -/
theorem agree_keyword (hs : Tracks s p) (ho : p.options = .standard) (word : List Char) :
    ∃ q, p.Keeps q ∧
      Agree (s.acceptKeyword word) ((readKeyword word p.rest).isSome, q) ∧
      q.rest = ((readKeyword word p.rest).map Prod.snd).getD p.rest := by
  have haccept := hs.acceptKeyword word
  have hhead : (p.rest.drop word.length).head? = p.text[p.index + word.length]? := by
    rw [List.head?_drop, Position.getElem?_rest]
  rw [Position.acceptKeyword, Position.acceptIf, ho] at haccept
  unfold readKeyword
  rw [hhead]
  by_cases hword : word <+: p.rest
  · rw [if_pos hword] at haccept
    by_cases hafter : p.text[p.index + word.length]?.any isWordUnit = true
    · rw [if_neg (by simpa [isWordUnit] using hafter)] at haccept
      rw [if_neg (by simp [hafter])]
      exact ⟨_, .see p _, haccept, rfl⟩
    · rw [Bool.not_eq_true] at hafter
      rw [if_pos (by simpa [isWordUnit] using hafter)] at haccept
      rw [if_pos ⟨hword, hafter⟩]
      exact ⟨_, (Position.Keeps.pass p _).trans (.see _ _), haccept, p.rest_pass _⟩
  · rw [if_neg hword] at haccept
    rw [if_neg fun h => hword h.1]
    exact ⟨_, .see p _, haccept, rfl⟩

theorem yields_keyword (hs : Tracks s p) (ho : p.options = .standard) (word : List Char) :
    (Rule.require (Scanner.acceptKeyword word)).Yields s p (readKeyword word p.rest) := by
  obtain ⟨q, hpq, haccept, hrest⟩ := agree_keyword hs ho word
  have hyields := Rule.yields_require haccept hpq
  cases hread : readKeyword word p.rest with
  | none =>
    rw [hread] at hyields
    exact hyields
  | some x =>
    obtain ⟨⟨⟩, cs⟩ := x
    rw [hread] at hyields hrest
    obtain rfl : q.rest = cs := hrest
    exact hyields

/-- The part of `fetchLine` behind the blanks. -/
def target : Rule Statement := do
  match ← Rule.scan (Scanner.acceptPattern quoted) with
  | some m => return .fetch (stripBackslashes (← Rule.ofOption (m.get? 1)))
  | none =>
    let naked ← Rule.scan (Scanner.takeUntil Unicode.whitespace.contains)
    if naked.isEmpty then failure
    return .fetch naked

theorem reads_target : target.Reads readTarget := by
  intro s p hs
  have haccept := hs.acceptPattern quoted
  rw [readTarget]
  cases hread : readQuoted p.rest with
  | some x =>
    obtain ⟨m, hbody, hout, hrest⟩ := acceptPattern_quoted_some hs hread
    refine Rule.scan_bind (hout ▸ haccept) (.pass p _) fun t ht => ?_
    simp only [hbody]
    rw [← hrest]
    exact Rule.yields_pure ht _
  | none =>
    refine Rule.scan_bind (acceptPattern_quoted_none hs hread ▸ haccept) (.refl p) fun t ht => ?_
    refine Rule.scan_bind (ht.takeUntil _) (.takeWhile p _) fun u hu => ?_
    have hrest := p.rest_takeWhile fun c => !isSpace c
    simp only [List.isEmpty_iff]
    by_cases hnil : p.rest.takeWhile (fun c => !isSpace c) = []
    · rw [if_pos hnil]
      exact (if_pos hnil ▸ Rule.bind_of_none ⟨rfl, hu⟩ (.refl _))
    · rw [if_neg hnil, ← hrest]
      exact (if_neg hnil ▸ Rule.yields_pure hu _)

theorem yields_fetchLine (hs : Tracks s p) (ho : p.options = .standard) :
    fetchLine.Yields s p (readFetch p.rest) := by
  refine (yields_keyword hs ho _).bind fun _ t q ht hpq _ => ?_
  obtain ⟨r, hskip, hqr, hr⟩ := agree_skipBlanks_count ht
  refine Rule.bind_of_some hskip hqr fun u hu => ?_
  simp only [List.length_eq_zero_iff]
  by_cases hnil : q.rest.takeWhile isBlank = []
  · simp only [hnil, if_true]
    exact Rule.bind_of_none ⟨rfl, hu⟩ (.refl r)
  · simp only [hnil, if_false]
    rw [← hr]
    exact reads_target u r hu

theorem reads_assignment : (do
      let name ← lexeme ident
      let _ ← skipBlanks
      let _ ← symbol '='
      let _ ← skipBlanks
      return .set name.matched (← expression) : Rule Statement).Reads readAssignment := by
  intro s p hs
  have haccept := hs.acceptPattern ident
  rw [readAssignment]
  rcases p.acceptPattern_of_lexes hs lexes_ident with ⟨hnil, hnone⟩ | ⟨hne, m, hm, hsome⟩
  · rw [if_pos hnil]
    exact Rule.bind_of_none (hnone ▸ haccept) (.refl p)
  · rw [if_neg hne]
    refine Rule.bind_of_some (hsome ▸ haccept) (.pass p _) fun t ht => ?_
    obtain ⟨_, q, hskip, hpq, hq⟩ := agree_skipBlanks ht
    refine Rule.bind_of_some hskip hpq fun u hu => ?_
    rw [← p.rest_pass, ← hq]
    refine ((Rule.tries_accept '=').reads u q hu).bind fun _ v r hv _ _ => ?_
    obtain ⟨_, r', hskip', hrr', hr'⟩ := agree_skipBlanks hv
    refine Rule.bind_of_some hskip' hrr' fun w hw => ?_
    rw [← hr', Option.map_eq_bind]
    refine (reads_expression w r' hw).bind fun e x y hx _ _ => ?_
    exact hm ▸ Rule.yields_pure hx (Statement.set m.matched e)

theorem yields_setLine (hs : Tracks s p) (ho : p.options = .standard) :
    setLine.Yields s p (readSet p.rest) := by
  refine (yields_keyword hs ho _).bind fun _ t q ht _ _ => ?_
  obtain ⟨_, r, hskip, hqr, hr⟩ := agree_skipBlanks ht
  refine Rule.bind_of_some hskip hqr fun u hu => ?_
  rw [← hr]
  exact reads_assignment u r hu

/-! ## Attempts and lines -/

theorem recovers_statement (hs : Tracks s p) (ho : p.options = .standard) :
    statement.Recovers s p (readStatement p.rest) := by
  refine ((yields_fetchLine hs ho).recovers hs).orElse fun t q ht hpq hrest => ?_
  rw [← hrest]
  exact (yields_setLine ht (hpq.options_eq.trans ho)).recovers ht

theorem agree_lineIsDone (p : Position) :
    ∃ q, p.Keeps q ∧ q.rest = skip p.rest ∧
      ∀ {t}, Tracks t p → Agree (lineIsDone t) (lineEnds (skip p.rest), q) := by
  have hskip := p.rest_takeWhile isBlank
  refine ⟨(p.takeWhile isBlank).2.see ((p.takeWhile isBlank).2.index + 1),
    (Position.Keeps.takeWhile p _).trans (.see _ _), hskip, fun ht => ?_⟩
  refine (ht.takeWhile isBlank).bind fun u hu => hu.peek.bind fun v hv => ⟨?_, hv⟩
  have hhead : (p.takeWhile isBlank).2.rest.head? =
      (p.takeWhile isBlank).2.text[(p.takeWhile isBlank).2.index]? := List.head?_drop
  rw [skip, ← hskip, lineEnds, hhead]
  show (Option.isNone _ || decide (_ = some '\n')) = Option.all _ _
  cases (p.takeWhile isBlank).2.text[(p.takeWhile isBlank).2.index]? <;> simp

/-- To give up a line is to go back to its start, which is always there, and to take it as it is. -/
theorem agree_giveUpLine (hs : Tracks s p) {q : Position} (hpq : p.Keeps q) :
    ∃ r, p.Keeps r ∧ r.rest = p.rest.dropWhile (· ≠ '\n') ∧
      ∀ {t}, Tracks t q →
        Agree (giveUpLine s.here t) (.failed (p.rest.takeWhile (· ≠ '\n')), r) := by
  have hline : (fun c : Char => !decide (c = '\n')) = fun c => decide (c ≠ '\n') := by
    funext c
    simp
  have hrest : (q.goTo p.index).rest = p.rest := by
    show q.text.drop p.index = p.rest
    rw [hpq.text_eq]
    rfl
  refine ⟨((q.goTo p.index).takeWhile fun c => !decide (c = '\n')).2,
    (hpq.trans (.goTo q _)).trans (.takeWhile _ _), ?_, fun ht => ?_⟩
  · rw [Position.rest_takeWhile, hrest, hline]
  · have hback := Rule.agree_rewind hs ht hpq
    rw [← hs.here_eq] at hback
    refine hback.bind fun u hu => (hu.takeUntil _).bind fun v hv => ⟨?_, hv⟩
    show Outcome.failed ((q.goTo p.index).rest.takeWhile fun c => !decide (c = '\n')) = _
    rw [hrest, hline]

def finish (start : Nat) (outcome : Outcome) : Scan Record := do
  let stop := (← get).offset
  let _ ← Scanner.release
  return ⟨start, stop, outcome⟩

theorem agree_finish (hs : Tracks s p) (start : Nat) (outcome : Outcome) :
    Agree (finish start outcome s) (⟨start, p.offset, outcome⟩, p.release.2) := by
  refine ⟨?_, hs.release.2⟩
  show Record.mk start s.offset outcome = _
  rw [hs.offset_eq]

/-- A record is made of what the next line comes to, and lets go of all before its end. -/
theorem agree_record (hs : Tracks s p) (ho : p.options = .standard) :
    ∃ q, p.Keeps q ∧ q.rest = (readRecord p.rest).2 ∧
      Agree (record s) (⟨p.offset, q.offset, (readRecord p.rest).1⟩, q.release.2) := by
  have hfinish : ∀ {t : Scanner} {r : Position} (o : Outcome), Tracks t r →
      Agree (finish s.offset o t) (⟨p.offset, r.offset, o⟩, r.release.2) := by
    intro t r o ht
    rw [← hs.offset_eq]
    exact agree_finish ht _ o
  obtain ⟨q, hpq, hstatement, hrest⟩ := recovers_statement hs ho
  unfold record
  rw [Scan.get_bind_apply, readRecord, readLine]
  cases hread : readStatement p.rest with
  | none =>
    rw [hread] at hstatement
    obtain ⟨r, hpr, hrest', hgiveUp⟩ := agree_giveUpLine hs hpq
    refine ⟨r, hpr, hrest', hstatement.bind fun t ht => ?_⟩
    exact (hgiveUp ht).bind fun u hu => hfinish _ hu
  | some x =>
    rw [hread] at hstatement hrest
    have hskip : q.rest = x.2 := hrest
    obtain ⟨r, hqr, hrest', hdone⟩ := agree_lineIsDone q
    rw [hskip] at hdone hrest'
    rw [Option.bind_some]
    by_cases hends : lineEnds (skip x.2) = true
    · rw [hends] at hdone
      rw [if_pos hends]
      refine ⟨r, hpq.trans hqr, hrest', hstatement.bind fun t ht => (hdone ht).bind fun u hu => ?_⟩
      exact hfinish _ hu
    · rw [Bool.not_eq_true] at hends
      rw [hends] at hdone
      rw [hends, if_neg Bool.false_ne_true]
      obtain ⟨r', hpr', hrest'', hgiveUp⟩ := agree_giveUpLine hs (hpq.trans hqr)
      refine ⟨r', hpr', hrest'', hstatement.bind fun t ht => (hdone ht).bind fun u hu => ?_⟩
      exact (hgiveUp hu).bind fun v hv => hfinish _ hv

end Script

end Rewind
