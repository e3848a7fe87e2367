import Rewind.Proofs.Pattern.Modes
import Rewind.Proofs.Scanner.Operations

/-! Rules as readings. A rule that looks at nothing but the text to come is a function of it: it gives
an outcome and leaves a later part of the text. Readings compose as rules do (`Rule.Yields.bind`), and
going back to a checkpoint brings back the text to come (`Rule.agree_rewind`). -/
namespace Rewind

/-- One position is reached from another without letting go of anything. -/
structure Position.Keeps (p q : Position) : Prop where
  text_eq : q.text = p.text
  options_eq : q.options = p.options
  low_eq : q.low = p.low
  le_high : p.high ≤ q.high

namespace Position.Keeps

variable {p q r : Position}

theorem refl (p : Position) : p.Keeps p := ⟨rfl, rfl, rfl, Nat.le_refl _⟩

theorem trans (hpq : p.Keeps q) (hqr : q.Keeps r) : p.Keeps r where
  text_eq := hqr.text_eq.trans hpq.text_eq
  options_eq := hqr.options_eq.trans hpq.options_eq
  low_eq := hqr.low_eq.trans hpq.low_eq
  le_high := Nat.le_trans hpq.le_high hqr.le_high

theorem see (p : Position) (i : Nat) : p.Keeps (p.see i) := ⟨rfl, rfl, rfl, Nat.le_max_left ..⟩

theorem goTo (p : Position) (i : Nat) : p.Keeps (p.goTo i) := ⟨rfl, rfl, rfl, Nat.le_refl _⟩

theorem pass (p : Position) (n : Nat) : p.Keeps (p.pass n) := (see p _).trans (goTo _ _)

theorem takeWhile (p : Position) (f : Char → Bool) : p.Keeps (p.takeWhile f).2 :=
  (pass p _).trans (see _ _)

end Position.Keeps

namespace Position

theorem rest_pass (p : Position) (n : Nat) : (p.pass n).rest = p.rest.drop n := List.drop_drop.symm

theorem rest_takeWhile (p : Position) (f : Char → Bool) :
    (p.takeWhile f).2.rest = p.rest.dropWhile f := by
  have hrest : (p.takeWhile f).2.rest = p.rest.drop (p.rest.takeWhile f).length := p.rest_pass _
  have hrun := List.prefix_iff_eq_append.mp (List.takeWhile_prefix (l := p.rest) f)
  rw [hrest]
  exact List.append_cancel_left (hrun.trans List.takeWhile_append_dropWhile.symm)

end Position

namespace Scanner.Tracks

variable {s t : Scanner} {p q : Position}

/-- A later part of the text to come stands where the text before it ends. -/
theorem slice_of_rest (hs : Tracks s p) (ht : Tracks t q) (hpq : p.Keeps q) {w : List Char}
    (hw : w ++ q.rest = p.rest) :
    Text.slice t.text s.offset t.offset = w ∧ t.offset = s.offset + Text.width w := by
  have hp := hs.length_rest
  have hq := ht.length_rest
  have hlen := congrArg List.length hw
  rw [List.length_append] at hlen
  rw [hpq.text_eq] at hq
  have hindex : q.index = p.index + w.length := by omega
  have htake : p.rest.take w.length = w := by
    rw [← hw]
    exact List.take_left
  refine ⟨(hs.slice_eq ht hpq.text_eq hindex).trans htake, ?_⟩
  rw [ht.offset_eq, hs.offset_eq, Position.offset, Position.startOf, hpq.text_eq, hindex,
    Text.width_take_add]
  exact congrArg (fun v => p.offset + Text.width v) htake

/-- What is to come at the end of a first part of the text is the second part. -/
theorem rest_of_offset (hs : Tracks s p) {before after : List Char} (htext : s.text = before ++ after)
    (hoffset : s.offset = Text.width before) : p.rest = after := by
  have htake : p.text.take before.length = before := by
    rw [← hs.text_eq, htext]
    exact List.take_left
  have hlen : before.length ≤ p.text.length := by
    rw [← hs.text_eq, htext, List.length_append]
    exact Nat.le_add_right ..
  have hindex : p.index = before.length := by
    apply Text.width_take_inj hs.index_le_length hlen
    rw [htake, ← hoffset]
    exact hs.offset_eq.symm
  rw [Position.rest, hindex, ← hs.text_eq, htext]
  exact List.drop_left

end Scanner.Tracks

/-- An outcome of the text to come, and what is left of it. -/
abbrev Reading (α : Type) := List Char → Option (α × List Char)

def readUnit (c : Char) : Reading Char
  | [] => none
  | d :: cs => if d = c then some (c, cs) else none

namespace Rule

open Scanner (Tracks Agree)

variable {α β : Type}

/-- From where a scanner stands a rule has an outcome, and with it leaves the given text to come. A rule
that fails may have got anywhere. -/
def Yields (rule : Rule α) (s : Scanner) (p : Position) (out : Option (α × List Char)) : Prop :=
  ∃ q, Agree (rule s) (out.map Prod.fst, q) ∧ p.Keeps q ∧ ∀ x ∈ out, q.rest = x.2

/-- From where a scanner stands a rule has an outcome, and with it leaves the given text to come. A rule
that fails leaves the text that there was. -/
def Recovers (rule : Rule α) (s : Scanner) (p : Position) (out : Option (α × List Char)) : Prop :=
  ∃ q, p.Keeps q ∧ Agree (rule s) (out.map Prod.fst, q) ∧
    q.rest = (out.map Prod.snd).getD p.rest

/-- A rule is a function of the text to come. -/
def Reads (rule : Rule α) (read : Reading α) : Prop :=
  ∀ s p, Tracks s p → rule.Yields s p (read p.rest)

/-- A rule is a function of the text to come, which is still to come where the rule fails. -/
def Tries (rule : Rule α) (read : Reading α) : Prop :=
  ∀ s p, Tracks s p → rule.Recovers s p (read p.rest)

section

variable {s : Scanner} {p q : Position}

theorem yields_of_none {rule : Rule α} (h : Agree (rule s) (none, q)) (hpq : p.Keeps q) :
    rule.Yields s p none :=
  ⟨q, h, hpq, nofun⟩

theorem yields_of_some {rule : Rule α} {a : α} {cs : List Char} (h : Agree (rule s) (some a, q))
    (hpq : p.Keeps q) (hrest : q.rest = cs) : rule.Yields s p (some (a, cs)) :=
  ⟨q, h, hpq, fun _ hx => Option.some.inj hx ▸ hrest⟩

/-- A rule that begins by reading the scanner. -/
theorem yields_get {k : Scanner → Rule α} {out : Option (α × List Char)}
    (h : (k s).Yields s p out) : (get >>= k : Rule α).Yields s p out := h

theorem yields_pure (h : Tracks s p) (a : α) : (pure a : Rule α).Yields s p (some (a, p.rest)) :=
  yields_of_some ⟨rfl, h⟩ (.refl p) rfl

theorem bind_of_none {rule : Rule β} {k : β → Rule α} (h : Agree (rule s) (none, q))
    (hpq : p.Keeps q) : (rule >>= k).Yields s p none := by
  refine ⟨q, ?_, hpq, nofun⟩
  rw [bind_apply, h.1]
  exact ⟨rfl, h.2⟩

theorem bind_of_some {rule : Rule β} {k : β → Rule α} {b : β} {out : Option (α × List Char)}
    (h : Agree (rule s) (some b, q)) (hpq : p.Keeps q)
    (hk : ∀ t, Tracks t q → (k b).Yields t q out) : (rule >>= k).Yields s p out := by
  obtain ⟨r, hr, hqr, hrest⟩ := hk _ h.2
  refine ⟨r, ?_, hpq.trans hqr, hrest⟩
  rw [bind_apply, h.1]
  exact hr

/-- A rule goes on from where a scan without failure leads. -/
theorem scan_bind {scan : Scan β} {k : β → Rule α} {b : β} {out : Option (α × List Char)}
    (h : Agree (scan s) (b, q)) (hpq : p.Keeps q)
    (hk : ∀ t, Tracks t q → (k b).Yields t q out) : (Rule.scan scan >>= k).Yields s p out := by
  have hsome : Agree (Rule.scan scan s) (some b, q) := ⟨congrArg some h.1, h.2⟩
  exact bind_of_some hsome hpq hk

/-- What follows a rule goes on with the text that the rule leaves. -/
theorem Yields.bind {rule : Rule β} {k : β → Rule α} {out : Option (β × List Char)}
    (h : rule.Yields s p out) {next : β × List Char → Option (α × List Char)}
    (hk : ∀ b t q, Tracks t q → p.Keeps q → out = some (b, q.rest) →
      (k b).Yields t q (next (b, q.rest))) :
    (rule >>= k).Yields s p (out.bind next) := by
  obtain ⟨q, hq, hpq, hrest⟩ := h
  cases out with
  | none => exact bind_of_none hq hpq
  | some x =>
    obtain ⟨b, cs⟩ := x
    obtain rfl : q.rest = cs := hrest _ rfl
    exact bind_of_some hq hpq fun t ht => hk b t q ht hpq rfl

/-- Going back to where a rule was before, with all that it has looked at since. -/
theorem agree_rewind (hp : Tracks s p) {t : Scanner} (ht : Tracks t q) (hpq : p.Keeps q) :
    Agree (Rule.rewind p.here t) (some (), q.goTo p.index) := by
  have hknows : q.Knows p.here := hp.knows_here.of_le hpq.text_eq hpq.le_high
  have hlow : q.low ≤ p.here.cursor := hpq.low_eq ▸ hp.low_le
  refine (ht.rewind p.here).bind fun u hu => ?_
  rw [hknows.rewind_eq, if_pos hlow] at hu ⊢
  exact ⟨rfl, hu⟩

/-- The second of two rules is tried with the text that the first one had. -/
theorem Recovers.orElse {rule rule' : Rule α} {out out' : Option (α × List Char)}
    (h : rule.Recovers s p out)
    (h' : ∀ t q, Tracks t q → p.Keeps q → q.rest = p.rest → rule'.Recovers t q out') :
    (rule <|> rule').Recovers s p (out <|> out') := by
  obtain ⟨q, hpq, ⟨hout, hq⟩, hrest⟩ := h
  cases out with
  | some x =>
    refine ⟨q, hpq, ?_, hrest⟩
    rw [orElse_apply, hout]
    exact ⟨rfl, hq⟩
  | none =>
    obtain ⟨r, hqr, hr, hrest'⟩ := h' _ q hq hpq hrest
    refine ⟨r, hpq.trans hqr, ?_, hrest'.trans (congrArg _ hrest)⟩
    rw [orElse_apply, hout]
    exact hr

end

theorem reads_failure : (failure : Rule α).Reads fun _ => none :=
  fun _ p hs => yields_of_none ⟨rfl, hs⟩ (.refl p)

theorem Tries.reads {rule : Rule α} {read : Reading α} (h : rule.Tries read) : rule.Reads read := by
  intro s p hs
  obtain ⟨q, hpq, hq, hrest⟩ := h s p hs
  refine ⟨q, hq, hpq, fun x hx => ?_⟩
  rw [hrest, hx]
  rfl

theorem Tries.orElse {rule rule' : Rule α} {read read' : Reading α} (h : rule.Tries read)
    (h' : rule'.Tries read') : (rule <|> rule').Tries fun cs => read cs <|> read' cs := by
  intro s p hs
  refine (h s p hs).orElse fun t q ht _ hrest => ?_
  rw [← hrest]
  exact h' t q ht

theorem tries_accept (c : Char) : (Rule.ofScan (Scanner.accept c)).Tries (readUnit c) := by
  intro s p hs
  have haccept := hs.accept c
  unfold Position.accept at haccept
  cases hnext : p.text[p.index]? with
  | none =>
    rw [hnext, if_neg nofun] at haccept
    rw [Position.rest_nil hnext]
    exact ⟨_, .see p _, haccept, rfl⟩
  | some d =>
    rw [hnext] at haccept
    rw [Position.rest_cons hnext, readUnit]
    by_cases hd : d = c
    · rw [if_pos (congrArg some hd)] at haccept
      rw [if_pos hd]
      exact ⟨_, .pass p 1, haccept, rfl⟩
    · rw [if_neg fun he => hd (Option.some.inj he)] at haccept
      rw [if_neg hd]
      exact ⟨_, .see p _, haccept, rfl⟩

end Rule

namespace Position

section

variable {s : Scanner} {p : Position} {r : Pattern}

theorem acceptPattern_of_none (hs : Scanner.Tracks s p)
    (hsearch : ∀ before, r.program.search before p.offset p.rest = none) :
    p.acceptPattern r = (none, p) := by
  have happly : r.applyAt? p.text p.offset = none :=
    r.applyAt?_width_take p.text hs.index_le_length hsearch
  rw [acceptPattern, happly]

/-- Where a search finds a match of some units, a position goes over them. -/
theorem acceptPattern_of_some (hs : Scanner.Tracks s p) {n : Nat} (hn : n ≤ p.rest.length)
    {closed : List (Nat × Nat × Nat)}
    (hsearch : ∀ before, r.program.search before p.offset p.rest =
      some ⟨p.offset + Text.width (p.rest.take n), closed⟩) :
    ∃ m, m = r.toMatch p.text p.offset ⟨p.offset + Text.width (p.rest.take n), closed⟩ ∧
      m.matched = p.rest.take n ∧ p.acceptPattern r = (some m, p.pass n) := by
  have happly : r.applyAt? p.text p.offset =
      some (r.toMatch p.text p.offset ⟨p.offset + Text.width (p.rest.take n), closed⟩) :=
    r.applyAt?_width_take p.text hs.index_le_length hsearch
  have hstop : p.offset + Text.width (p.rest.take n) = Text.width (p.text.take (p.index + n)) :=
    (Text.width_take_add ..).symm
  have hlength := hs.length_rest
  refine ⟨_, rfl, ?_, ?_⟩
  · show Text.slice p.text p.offset (p.offset + Text.width (p.rest.take n)) = _
    rw [hstop, offset, startOf, Text.slice_width_take]
    rfl
  · rw [acceptPattern, happly]
    show (some _, p.pass ((Text.takeBytes (p.offset + Text.width (p.rest.take n)) p.text).length -
      p.index)) = _
    rw [hstop, Text.takeBytes_width_take, List.length_take]
    congr 2
    omega

/-- A pattern that lexes takes what its function takes. -/
theorem acceptPattern_of_lexes (hs : Scanner.Tracks s p) {lex : List Char → List Char}
    (hr : r.Lexes lex) :
    (lex p.rest = [] ∧ p.acceptPattern r = (none, p)) ∨
      (lex p.rest ≠ [] ∧ ∃ m, m.matched = lex p.rest ∧
        p.acceptPattern r = (some m, p.pass (lex p.rest).length)) := by
  have htake : p.rest.take (lex p.rest).length = lex p.rest :=
    (List.prefix_iff_eq_take.mp (hr.begins p.rest)).symm
  by_cases hnil : lex p.rest = []
  · exact .inl ⟨hnil, acceptPattern_of_none hs fun before => by rw [hr.search_eq, if_pos hnil]⟩
  · have hsearch : ∀ before, r.program.search before p.offset p.rest =
        some ⟨p.offset + Text.width (p.rest.take (lex p.rest).length), []⟩ := by
      intro before
      rw [hr.search_eq, if_neg hnil, htake]
    obtain ⟨m, -, hmatched, hout⟩ :=
      acceptPattern_of_some hs (hr.begins p.rest).length_le hsearch
    exact .inr ⟨hnil, m, hmatched.trans htake, hout⟩

end

end Position

end Rewind
