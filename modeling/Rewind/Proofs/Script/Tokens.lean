import Mathlib.Logic.Function.Iterate
import Rewind.Proofs.Script.Lines
import Rewind.Script.Token

/-! The tokens of a line. What a token takes is told by its kind (`Takes`), and never reaches into
whitespace. The tokens of a line stand between runs of whitespace that are all the rest of the line, so
that they spell it but for its whitespace (`Partitioned`). -/
namespace Rewind.Script

open Scanner (Tracks Agree)

def isSpaceUnit : Char → Bool := Options.standard.space.matchesOne

theorem isSpaceUnit_eq : isSpaceUnit = isSpace := funext fun c => Program.search_one Unicode.whitespace c

/-! ## What tokens take -/

/-- What a token of a kind takes, and what it leaves. -/
inductive Takes : TokenKind → List Char → List Char → Prop where
  | keyword {rest : List Char} (hends : rest.head?.any isWordUnit = false) :
      Takes .keyword "let".toList rest
  | ident {w rest : List Char} (hw : identifier (w ++ rest) = w) (hne : w ≠ []) : Takes .ident w rest
  | number {w rest : List Char} (hw : numeral (w ++ rest) = w) (hne : w ≠ []) : Takes .number w rest
  | punct {c : Char} {rest : List Char} : Takes .punct [c] rest

theorem Takes.ne_nil {k : TokenKind} {w rest : List Char} (h : Takes k w rest) : w ≠ [] := by
  cases h with
  | keyword hends => decide
  | ident hw hne => exact hne
  | number hw hne => exact hne
  | punct => exact List.cons_ne_nil _ _

variable {s : Scanner} {p : Position}

/-- From where a scanner stands a scan takes a token, or nothing at the end of the text. -/
def TakesToken (scan : Scan (Option TokenKind)) (s : Scanner) (p : Position) : Prop :=
  ∃ out q, p.Keeps q ∧ Agree (scan s) (out, q) ∧
    match out with
    | none => p.rest = []
    | some k => ∃ w, w ++ q.rest = p.rest ∧ Takes k w q.rest

namespace TakesToken

variable {β : Type} {b : β} {q : Position} {m : Scan β} {more : β → Scan (Option TokenKind)}

/-- What did not bring a scanner on leaves it to the rest of a scan to take a token. -/
theorem bind (h : Agree (m s) (b, q)) (hpq : p.Keeps q) (hrest : q.rest = p.rest)
    (hmore : ∀ t, Tracks t q → TakesToken (more b) t q) : TakesToken (m >>= more) s p := by
  obtain ⟨hout, ht⟩ := h
  obtain ⟨out, r, hqr, htoken, hcomes⟩ := hmore _ ht
  refine ⟨out, r, hpq.trans hqr, ?_, hrest ▸ hcomes⟩
  rw [Scan.bind_apply, hout]
  exact htoken

/-- What did is a token. -/
theorem of_takes {k : TokenKind} (h : Agree (m s) (b, q)) (hpq : p.Keeps q)
    (hmore : more b = pure (some k)) {w : List Char} (hw : w ++ q.rest = p.rest)
    (htakes : Takes k w q.rest) : TakesToken (m >>= more) s p := by
  refine ⟨some k, q, hpq, h.bind fun t ht => ?_, w, hw, htakes⟩
  rw [hmore]
  exact ⟨rfl, ht⟩

end TakesToken

section

variable {more : Scan (Option TokenKind)} (hmore : ∀ t q, Tracks t q → TakesToken more t q)

include hmore

theorem takesToken_keyword (hs : Tracks s p) (ho : p.options = .standard) :
    TakesToken (do
      if ← Scanner.acceptKeyword "let".toList then return some .keyword
      more) s p := by
  obtain ⟨q, hpq, hword, hrest⟩ := agree_keyword hs ho "let".toList
  cases hread : readKeyword "let".toList p.rest with
  | some x =>
    rw [hread] at hword hrest
    obtain ⟨⟨hpre, hends⟩, hx⟩ := Option.ite_none_right_eq_some.mp hread
    cases hx
    have happend := List.prefix_iff_eq_append.mp hpre
    exact .of_takes hword hpq rfl (hrest ▸ happend) (.keyword (hrest ▸ hends))
  | none =>
    rw [hread] at hword hrest
    exact .bind hword hpq hrest fun t ht => hmore t q ht

theorem takesToken_lexeme (hs : Tracks s p) {r : Pattern} {lex : List Char → List Char}
    (hr : r.Lexes lex) {k : TokenKind}
    (hk : ∀ w rest, lex (w ++ rest) = w → w ≠ [] → Takes k w rest) :
    TakesToken (do
      if (← Scanner.acceptPattern r).isSome then return some k
      more) s p := by
  have haccept := hs.acceptPattern r
  have hbegins := List.prefix_iff_eq_append.mp (hr.begins p.rest)
  rcases p.acceptPattern_of_lexes hs hr with ⟨hnil, hnone⟩ | ⟨hne, m, -, hsome⟩
  · rw [hnone] at haccept
    exact .bind haccept (.refl p) rfl fun t ht => hmore t p ht
  · rw [hsome] at haccept
    rw [← p.rest_pass] at hbegins
    exact .of_takes haccept (.pass p _) rfl hbegins (hk _ _ (by rw [hbegins]) hne)

end

theorem takesToken_punct (hs : Tracks s p) :
    TakesToken (do
      if (← Scanner.next).isSome then return some .punct
      return none) s p := by
  cases hc : p.text[p.index]? with
  | none =>
    have hnext := hs.next_of_none hc
    exact .bind hnext (.refl p) rfl fun t ht =>
      ⟨none, p, .refl p, ⟨rfl, ht⟩, Position.rest_nil hc⟩
  | some c =>
    exact .of_takes (hs.next_of_some hc) (.pass p 1) rfl (w := [c]) (Position.rest_cons hc).symm .punct

theorem takesToken_tokenKind (hs : Tracks s p) (ho : p.options = .standard) :
    TakesToken tokenKind s p := by
  refine takesToken_keyword (fun t q ht => ?_) hs ho
  refine takesToken_lexeme (fun u r hu => ?_) ht lexes_ident fun _ _ => .ident
  exact takesToken_lexeme (fun v r' hv => takesToken_punct hv) hu lexes_number fun _ _ => .number

/-! ## Turns -/

/-- One turn of the loop over the tokens of a line, and what comes after it. -/
def tokenTurn (after : Scan (List Token)) : Scan (List Token) := do
  let _ ← Scanner.takeSpace
  let start := (← get).offset
  match ← tokenKind with
  | some kind =>
    let s ← get
    let t : Token := ⟨kind, start, s.offset, Text.slice s.text start s.offset⟩
    return t :: (← after)
  | none => return []

theorem tokenListWithin_succ (n : Nat) :
    tokenListWithin (n + 1) = tokenTurn (tokenListWithin n) := rfl

theorem tokenTurn_apply (after : Scan (List Token)) (s : Scanner) :
    (tokenTurn after s).1 =
      match (tokenKind s.takeSpace.2).1 with
      | some kind =>
        let u := (tokenKind s.takeSpace.2).2
        ⟨kind, s.takeSpace.2.offset, u.offset, Text.slice u.text s.takeSpace.2.offset u.offset⟩ ::
          (after u).1
      | none => [] := by
  unfold tokenTurn
  rw [Scan.bind_apply, Scan.get_bind_apply, Scan.bind_apply]
  cases (tokenKind s.takeSpace.2).1 <;> rfl

/-- A turn passes over whitespace and then over a token, from one position to another. -/
structure TokenTurn (s : Scanner) (p : Position) (t : Token) (u : Scanner) (q : Position) : Prop where
  apply : ∀ after, (tokenTurn after s).1 = t :: (after u).1
  tracks : Tracks u q
  keeps : p.Keeps q
  rest_eq : t.text ++ q.rest = p.rest.dropWhile isSpace
  takes : Takes t.kind t.text q.rest
  start_eq : t.start = p.offset + Text.width (p.rest.takeWhile isSpace)
  stop_eq : t.stop = t.start + Text.width t.text
  offset_eq : q.offset = t.stop

/-- A turn ends the loop where there is nothing but whitespace, and has a token elsewhere. -/
theorem tokenTurn_cases (hs : Tracks s p) (ho : p.options = .standard) :
    (p.rest.dropWhile isSpace = [] ∧ ∀ after, (tokenTurn after s).1 = []) ∨
      ∃ t u q, TokenTurn s p t u q := by
  have hspace := hs.takeSpace
  rw [ho, show Options.standard.space.matchesOne = isSpace from isSpaceUnit_eq] at hspace
  have hpq := Position.Keeps.takeWhile p isSpace
  have hrest := p.rest_takeWhile isSpace
  have hstart := offset_of_keeps hpq (hrest ▸ List.takeWhile_append_dropWhile)
  have ht := hspace.2
  obtain ⟨out, r, hqr, ⟨hout, hu⟩, hcomes⟩ :=
    takesToken_tokenKind ht (hpq.options_eq.trans ho)
  cases out with
  | none =>
    refine .inl ⟨hrest ▸ hcomes, fun after => ?_⟩
    rw [tokenTurn_apply, hout]
  | some kind =>
    obtain ⟨w, hw, htakes⟩ := hcomes
    obtain ⟨hslice, hstop⟩ := ht.slice_of_rest hu hqr hw
    have happly : ∀ after, (tokenTurn after s).1 =
        ⟨kind, s.takeSpace.2.offset, (tokenKind s.takeSpace.2).2.offset, w⟩ ::
          (after (tokenKind s.takeSpace.2).2).1 := fun after => by
      rw [tokenTurn_apply, hout]
      simp only [hslice]
    -- What is behind the token is named, lest its fields be found by running the scan.
    generalize (tokenKind s.takeSpace.2).2 = u at hu hstop happly
    refine .inr ⟨⟨kind, s.takeSpace.2.offset, u.offset, w⟩, u, r, ?_⟩
    exact
      { apply := happly
        tracks := hu
        keeps := hpq.trans hqr
        rest_eq := hw.trans hrest
        takes := htakes
        start_eq := ht.offset_eq.trans hstart
        stop_eq := hstop
        offset_eq := hu.offset_eq.symm }

namespace TokenTurn

variable {t : Token} {u : Scanner} {q : Position}

theorem options_eq (h : TokenTurn s p t u q) : q.options = p.options := h.keeps.options_eq

/-- A token takes a unit at least. -/
theorem length_lt (h : TokenTurn s p t u q) : q.rest.length < p.rest.length := by
  have hpos := List.length_pos_iff.mpr h.takes.ne_nil
  have hle := (List.dropWhile_suffix (l := p.rest) isSpace).length_le
  rw [← h.rest_eq, List.length_append] at hle
  omega

end TokenTurn

/-- A token stands between two parts of a line. -/
structure Token.Within (before after line : List Char) (t : Token) : Prop where
  eq : before ++ (t.text ++ after) = line
  start_eq : t.start = Text.width before
  stop_eq : t.stop = t.start + Text.width t.text

/-- Tokens account for a text that begins at an offset: whitespace, then a token, and so on. -/
inductive Tokenized : Nat → List Char → List Token → Prop where
  | done {n : Nat} {space : List Char} (hspace : ∀ c ∈ space, isSpace c = true) :
      Tokenized n space []
  | more {n : Nat} {space rest : List Char} {t : Token} {ts : List Token}
      (hspace : ∀ c ∈ space, isSpace c = true) (hstart : t.start = n + Text.width space)
      (hstop : t.stop = t.start + Text.width t.text) (htakes : Takes t.kind t.text rest)
      (hhead : ∀ c ∈ (t.text ++ rest).head?, isSpace c = false)
      (hrest : Tokenized t.stop rest ts) : Tokenized n (space ++ (t.text ++ rest)) (t :: ts)

theorem tokenized_within {n : Nat} (hs : Tracks s p) (ho : p.options = .standard)
    (hn : p.rest.length < n) : Tokenized p.offset p.rest (tokenListWithin n s).1 := by
  induction n generalizing s p with
  | zero => exact absurd hn (Nat.not_lt_zero _)
  | succ n ih =>
    rw [tokenListWithin_succ]
    rcases tokenTurn_cases hs ho with ⟨hnil, hnone⟩ | ⟨t, u, q, hturn⟩
    · rw [hnone]
      exact .done fun c hc => List.dropWhile_eq_nil_iff.mp hnil c hc
    · have hlt := hturn.length_lt
      have hmore := ih hturn.tracks (hturn.options_eq.trans ho) (by omega)
      rw [hturn.offset_eq] at hmore
      have hhead : ∀ c ∈ (t.text ++ q.rest).head?, isSpace c = false := by
        rw [hturn.rest_eq]
        exact fun c hc => Text.of_mem_head?_dropWhile hc
      have htokens := Tokenized.more (fun c hc => List.mem_takeWhile_imp hc) hturn.start_eq
        hturn.stop_eq hturn.takes hhead hmore
      rw [hturn.rest_eq, List.takeWhile_append_dropWhile] at htokens
      rw [hturn.apply]
      exact htokens

namespace Tokenized

variable {n : Nat} {cs : List Char} {ts : List Token}

theorem within (h : Tokenized n cs ts) (before : List Char) (hn : n = Text.width before) :
    ∀ t ∈ ts, ∃ before' after, t.Within before' after (before ++ cs) ∧ Takes t.kind t.text after := by
  induction h generalizing before with
  | done hspace => nofun
  | @more n space rest t ts hspace hstart hstop htakes hhead hrest ih =>
    have hstart' : t.start = Text.width (before ++ space) := by
      rw [hstart, hn, Text.width_append]
    intro t' ht'
    rcases List.mem_cons.mp ht' with rfl | hmem
    · exact ⟨before ++ space, rest, ⟨List.append_assoc .., hstart', hstop⟩, htakes⟩
    · have hwithin := ih (before ++ space ++ t.text)
        (by rw [Text.width_append, ← hstart', hstop]) t' hmem
      rwa [List.append_assoc, List.append_assoc] at hwithin

theorem spans (h : Tokenized n cs ts) :
    Text.Spans isSpace n cs (ts.map fun t => (t.start, t.stop)) := by
  induction h with
  | done hspace => exact .done hspace
  | more hspace hstart hstop htakes hhead hrest ih => exact .more hspace hstart hstop htakes.ne_nil ih

end Tokenized

theorem tokenized_tokenList (line : List Char) : Tokenized 0 line (tokenList line) :=
  tokenized_within (Scanner.tracks_ofText line .standard) rfl (Nat.lt_succ_self _)

/-! ## The tokens of a line -/

end Rewind.Script
