import Rewind.Proofs.Script.Tokens

/-! Where words end in a list of tokens. An identifier goes as far as its pattern does. The keyword ends
in front of a unit that is in no word, by the class of the scanner. The two classes differ: behind the
keyword there can be a unit that an identifier goes on with, such as a combining mark. -/
namespace Rewind.Script

/-- The identifier where a token starts stops where the token does. -/
def Token.IsMaximal (line : List Char) (t : Token) : Prop :=
  ∃ m, ident.applyAt? line t.start = some m ∧ m.stop = t.stop

section

variable {line before after : List Char} {t : Token}

theorem Token.Within.isMaximal_iff (h : t.Within before after line)
    (hne : identifier (t.text ++ after) ≠ []) :
    t.IsMaximal line ↔ identifier (t.text ++ after) = t.text := by
  have hident : ∀ b, ident.program.search b (Text.width before) (t.text ++ after) =
      some ⟨Text.width before + Text.width (identifier (t.text ++ after)), []⟩ := fun b => by
    rw [lexes_ident.search_eq, if_neg hne]
  have hmatch := ident.applyAt?_append before _ hident
  rw [h.eq, ← h.start_eq] at hmatch
  constructor
  · rintro ⟨m, hm, hstop⟩
    obtain rfl := Option.some.inj (hmatch.symm.trans hm)
    have hwidth : Text.width (identifier (t.text ++ after)) = Text.width t.text :=
      Nat.add_left_cancel (hstop.trans h.stop_eq)
    exact Text.eq_of_prefix_of_width (identifier_begins _) (List.prefix_append ..) hwidth
  · intro heq
    refine ⟨_, hmatch, ?_⟩
    show t.start + Text.width (identifier (t.text ++ after)) = t.stop
    rw [heq, h.stop_eq]

/-- An identifier goes on with the word characters behind it. -/
theorem identifier_append {c : Char} {cs : List Char} (hc : isHead c = true)
    (hcs : ∀ d ∈ cs, isWordChar d = true) (after : List Char) :
    identifier (c :: cs ++ after) = c :: cs ++ after.takeWhile isWordChar := by
  rw [List.cons_append, identifier, if_pos hc, List.takeWhile_append_of_pos hcs, List.cons_append]

/-- The keyword is a whole identifier unless a word character is behind it. -/
theorem Token.Within.keyword_isMaximal_iff (h : t.Within before after line)
    (htext : t.text = "let".toList) :
    t.IsMaximal line ↔ after.head?.any isWordChar = false := by
  have hident : identifier (t.text ++ after) = t.text ++ after.takeWhile isWordChar := by
    have hword : (['e', 't'].all isWordChar) = true := by decide +kernel
    rw [htext]
    exact identifier_append (by decide) (List.all_eq_true.mp hword) after
  have hne : identifier (t.text ++ after) ≠ [] := by
    rw [hident, htext]
    exact List.cons_ne_nil _ _
  rw [h.isMaximal_iff hne, hident, List.append_right_eq_self, Text.takeWhile_eq_nil]

/-- An identifier stops where the pattern does. Behind the keyword stands no unit that goes on with a
word of the scanner, and the keyword is a whole identifier unless a word character stands there all the
same. -/
structure Token.EndsWord (line : List Char) (t : Token) : Prop where
  ident : t.kind = .ident → t.IsMaximal line
  keyword : t.kind = .keyword → t.text = "let".toList ∧
    ∃ before after, t.Within before after line ∧ after.head?.any isWordUnit = false ∧
      (t.IsMaximal line ↔ after.head?.any isWordChar = false)

/-- Every token of a line ends so. -/
theorem endsWord_of_mem (ht : t ∈ tokenList line) : t.EndsWord line := by
  obtain ⟨before, after, hwithin, htakes⟩ := (tokenized_tokenList line).within [] rfl t ht
  rw [List.nil_append] at hwithin
  obtain ⟨kind, start, stop, text⟩ := t
  cases htakes with
  | keyword hends =>
    exact ⟨nofun, fun _ => ⟨rfl, before, after, hwithin, hends, hwithin.keyword_isMaximal_iff rfl⟩⟩
  | ident hw hne =>
    exact ⟨fun _ => (hwithin.isMaximal_iff (hw.symm ▸ hne)).mpr hw, nofun⟩
  | number hw hne => exact ⟨nofun, nofun⟩
  | punct => exact ⟨nofun, nofun⟩

end

/-! ## The keyword in front of a combining mark -/

theorem tokenList_mark : tokenList "let\u0301".toList =
    [⟨.keyword, 0, 3, "let".toList⟩, ⟨.punct, 3, 5, ['\u0301']⟩] := by
  decide +kernel

theorem keyword_mem_mark : ⟨.keyword, 0, 3, "let".toList⟩ ∈ tokenList "let\u0301".toList := by
  rw [tokenList_mark]
  exact List.mem_cons_self

theorem endsWord_mark :
    ⟨.keyword, 0, 3, "let".toList⟩ ∈ tokenList "let\u0301".toList ∧
      Token.EndsWord "let\u0301".toList ⟨.keyword, 0, 3, "let".toList⟩ :=
  ⟨keyword_mem_mark, endsWord_of_mem keyword_mem_mark⟩

/-- The keyword can be the beginning of a longer identifier. -/
theorem not_isMaximal_mark : ¬∀ line, ∀ t ∈ tokenList line,
    t.kind = .keyword ∨ t.kind = .ident → t.IsMaximal line := by
  intro hall
  have hwithin : Token.Within [] ['\u0301'] "let\u0301".toList ⟨.keyword, 0, 3, "let".toList⟩ :=
    ⟨rfl, rfl, rfl⟩
  have hmark : isWordChar '\u0301' = false :=
    (hwithin.keyword_isMaximal_iff rfl).mp (hall _ _ keyword_mem_mark (.inl rfl))
  exact absurd hmark (by decide +kernel)

end Rewind.Script
