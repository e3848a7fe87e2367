import Rewind.Proofs.Text.Spans
import Rewind.Text.Quoted

/-! Quoted texts can be read back. The escape of a character tells which character it is and where it
ends (`readEscape_escape`), so a quoted text tells what it quotes and where it ends, whatever stands
behind it (`quoted_append_inj`). It is all in one line (`not_mem_quoted`). -/
namespace Rewind.Text

/-! ## Numbers in hexadecimal -/

def digitValue (c : Char) : Nat := ((List.range 16).find? fun d => d.digitChar = c).getD 0

theorem digitValue_digitChar : ∀ d, d < 16 → digitValue d.digitChar = d := by decide

def hexValue (cs : List Char) : Nat := cs.foldl (fun n c => 16 * n + digitValue c) 0

theorem hexValue_toDigits (n : Nat) : hexValue (Nat.toDigits 16 n) = n := by
  induction n using Nat.strongRecOn with
  | ind n ih =>
    rw [Nat.toDigits_eq_if (by decide)]
    split
    · next h =>
      show 16 * 0 + digitValue n.digitChar = n
      rw [digitValue_digitChar n h, Nat.zero_add]
    · next h =>
      have hmore := ih (n / 16) (by omega)
      rw [hexValue] at hmore ⊢
      rw [List.foldl_append, hmore, List.foldl_cons, List.foldl_nil,
        digitValue_digitChar _ (Nat.mod_lt n (by decide))]
      omega

theorem exists_of_mem_toDigits {n : Nat} {c : Char} (hc : c ∈ Nat.toDigits 16 n) :
    ∃ d, d < 16 ∧ c = d.digitChar := by
  induction n using Nat.strongRecOn with
  | ind n ih =>
    rw [Nat.toDigits_eq_if (by decide)] at hc
    split at hc
    · next h => exact ⟨n, h, List.mem_singleton.mp hc⟩
    · next h =>
      rcases List.mem_append.mp hc with hc | hc
      · exact ih (n / 16) (by omega) hc
      · exact ⟨n % 16, Nat.mod_lt n (by decide), List.mem_singleton.mp hc⟩

/-- Neither the end of a line nor the end of a number is a digit. -/
theorem digit_ne {n : Nat} {c : Char} (hc : c ∈ Nat.toDigits 16 n) : c ≠ '\n' ∧ c ≠ '\x7d' := by
  obtain ⟨d, -, rfl⟩ := exists_of_mem_toDigits hc
  exact ⟨Nat.digitChar_ne '\n' (by decide), Nat.digitChar_ne '\x7d' (by decide)⟩

/-! ## Escapes -/

/-- What a letter behind a backslash stands for. -/
def marked (k : Char) : Option Char :=
  [('0', '\x00'), ('t', '\t'), ('r', '\r'), ('n', '\n'), ('"', '"'), ('\\', '\\')].lookup k

/-- Reads a letter, or a number in braces, behind a backslash. -/
def readMark : List Char → Option (Char × List Char)
  | [] => none
  | k :: cs =>
    if k = 'u' then
      let digits := (cs.drop 1).takeWhile (· ≠ '\x7d')
      some (Char.ofNat (hexValue digits), cs.drop (digits.length + 2))
    else (marked k).map (·, cs)

/-- Reads one character back, and finds none where a quoted text ends. -/
def readEscape : List Char → Option (Char × List Char)
  | [] => none
  | c :: cs =>
    if c = '\\' then readMark cs
    else if c = '"' then none
    else some (c, cs)

theorem readEscape_numbered (c : Char) (r : List Char) :
    readEscape (numbered c ++ r) = some (c, r) := by
  have hdigits : ∀ d ∈ Nat.toDigits 16 c.toNat, decide (d ≠ '\x7d') = true := fun d hd => by
    simpa using (digit_ne hd).2
  have htake : (Nat.toDigits 16 c.toNat ++ '\x7d' :: r).takeWhile (· ≠ '\x7d') =
      Nat.toDigits 16 c.toNat := takeWhile_append hdigits (by simp)
  have hdrop : ('\x7b' :: (Nat.toDigits 16 c.toNat ++ '\x7d' :: r)).drop
      ((Nat.toDigits 16 c.toNat).length + 2) = r := by
    rw [List.drop_succ_cons, List.drop_append, List.drop_of_length_le (Nat.le_succ _)]
    simp
  have happend : numbered c ++ r =
      '\\' :: 'u' :: '\x7b' :: (Nat.toDigits 16 c.toNat ++ '\x7d' :: r) := by
    simp [numbered]
  rw [happend, readEscape, if_pos rfl, readMark, if_pos rfl]
  simp only [List.drop_succ_cons, List.drop_zero, htake, hdrop, hexValue_toDigits, Char.ofNat_toNat]

/-- A character is escaped by a letter, by its number, or not at all. -/
theorem escape_cases (c : Char) :
    (∃ k, escape c = ['\\', k] ∧ marked k = some c) ∨ escape c = numbered c ∨
      escape c = [c] ∧ c ≠ '\\' ∧ c ≠ '"' ∧ c ≠ '\n' := by
  unfold escape
  split
  · next h => exact .inl ⟨'0', rfl, by rw [h]; rfl⟩
  split
  · next h => exact .inl ⟨'t', rfl, by rw [h]; rfl⟩
  split
  · next h => exact .inl ⟨'r', rfl, by rw [h]; rfl⟩
  split
  · next h => exact .inl ⟨'n', rfl, by rw [h]; rfl⟩
  split
  · next h => exact .inl ⟨'"', rfl, by rw [h]; rfl⟩
  split
  · next h => exact .inl ⟨'\\', rfl, by rw [h]; rfl⟩
  split
  · exact .inr (.inl rfl)
  · exact .inr (.inr ⟨rfl, ‹_›, ‹_›, ‹_›⟩)

/-- An escape is read back, and what stands behind it is left. -/
theorem readEscape_escape (c : Char) (r : List Char) : readEscape (escape c ++ r) = some (c, r) := by
  rcases escape_cases c with ⟨k, hescape, hk⟩ | hescape | ⟨hescape, hback, hquote, -⟩
  · have hu : k ≠ 'u' := by
      rintro rfl
      cases hk
    rw [hescape]
    show readMark (k :: r) = _
    rw [readMark, if_neg hu, hk]
    rfl
  · rw [hescape]
    exact readEscape_numbered c r
  · rw [hescape, List.singleton_append, readEscape, if_neg hback, if_neg hquote]

theorem not_mem_numbered (c : Char) : '\n' ∉ numbered c := by
  intro hmem
  rcases List.mem_append.mp hmem with hmem | hmem
  · rcases List.mem_append.mp hmem with hmem | hmem
    · exact absurd hmem (by decide)
    · exact (digit_ne hmem).1 rfl
  · exact absurd hmem (by decide)

theorem not_mem_escape (c : Char) : '\n' ∉ escape c := by
  rcases escape_cases c with ⟨k, hescape, hk⟩ | hescape | ⟨hescape, -, -, hn⟩
  · have hk' : k ≠ '\n' := by
      rintro rfl
      cases hk
    rw [hescape]
    simp [hk'.symm]
  · rw [hescape]
    exact not_mem_numbered c
  · rw [hescape]
    exact fun hmem => hn (List.mem_singleton.mp hmem).symm

/-! ## Quoted texts -/

theorem flatMap_escape_inj {a b r t : List Char}
    (h : a.flatMap escape ++ '"' :: r = b.flatMap escape ++ '"' :: t) : a = b ∧ r = t := by
  have hends : ∀ {c : Char} {cs x y : List Char},
      '"' :: x ≠ (c :: cs).flatMap escape ++ y := by
    intro c cs x y heq
    have hread := readEscape_escape c (cs.flatMap escape ++ y)
    rw [List.flatMap_cons, List.append_assoc] at heq
    rw [← heq] at hread
    cases hread
  induction a generalizing b with
  | nil =>
    cases b with
    | nil => exact ⟨rfl, (List.cons.inj h).2⟩
    | cons d b => exact absurd h hends
  | cons c a ih =>
    cases b with
    | nil => exact absurd h.symm hends
    | cons d b =>
      simp only [List.flatMap_cons, List.append_assoc] at h
      have hread := congrArg readEscape h
      rw [readEscape_escape, readEscape_escape] at hread
      obtain ⟨rfl, hrest⟩ := Prod.mk.inj (Option.some.inj hread)
      obtain ⟨rfl, hr⟩ := ih hrest
      exact ⟨rfl, hr⟩

/-- A quoted text tells what it quotes and where it ends. -/
theorem quoted_append_inj {a b r t : List Char} (h : quoted a ++ r = quoted b ++ t) :
    a = b ∧ r = t := by
  simp only [quoted, List.cons_append, List.append_assoc] at h
  exact flatMap_escape_inj (List.cons.inj h).2

/-- A quoted text is all in one line. -/
theorem not_mem_quoted (cs : List Char) : '\n' ∉ quoted cs := by
  intro hmem
  rcases List.mem_append.mp hmem with hmem | hmem
  · rcases List.mem_cons.mp hmem with hquote | hmem
    · exact absurd hquote (by decide)
    · obtain ⟨c, -, hc⟩ := List.mem_flatMap.mp hmem
      exact not_mem_escape c hc
  · exact absurd hmem (by decide)

end Rewind.Text
