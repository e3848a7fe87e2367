import Mathlib.Data.List.Nodup
import Mathlib.Data.Nat.Find
import Rewind.Pattern.Flags

/-! Flags written as letters. Letters can be read if each has a meaning and none comes twice, and then
it only matters which of them there are (`ofLetters_of_readable`). Otherwise the first letter that has
no meaning or came before is reported, and it is told which of the two it is (`readsLetters`). -/
namespace Rewind.Flags

def alphabet : List Char := ['i', 'm', 's', 'x', 'R', 'U', 'u', 'g', 'y']

/-- The letters that change nothing: two that set no flag, and that of a flag which is set anyway. -/
def idle : List Char := ['g', 'y', 'u']

/-- Each flag is set just if its letter is there, but for the last one, which is set always. -/
def having (letters : List Char) : Flags where
  caseInsensitive := 'i' ∈ letters
  multiLine := 'm' ∈ letters
  dotMatchesNewLine := 's' ∈ letters
  ignoreWhitespace := 'x' ∈ letters
  crlf := 'R' ∈ letters
  swapGreed := 'U' ∈ letters
  unicode := true

/-- No letter comes twice, and all have a meaning. -/
def Readable (letters : List Char) : Prop := letters.Nodup ∧ ∀ c ∈ letters, c ∈ alphabet

/-- The letter at place `p` has no meaning or stands at an earlier place too. -/
def FaultAt (letters : List Char) (p : Nat) (c : Char) : Prop :=
  letters[p]? = some c ∧ (c ∉ alphabet ∨ c ∈ letters.take p)

def FirstFault (letters : List Char) (p : Nat) (c : Char) : Prop :=
  FaultAt letters p c ∧ ∀ q < p, ∀ d, ¬FaultAt letters q d

/-- What is said of a letter behind others: that it came before, if it did. -/
def fault (letters earlier : List Char) (c : Char) : FlagError :=
  if c ∈ earlier then .duplicate c letters else .unknown c

/-- How letters are read as flags. -/
structure ReadsLetters (letters : List Char) : Prop where
  ok_iff : (∃ f, ofLetters letters = .ok f) ↔ Readable letters
  flags_eq : ∀ f, ofLetters letters = .ok f → f = having letters
  /-- Neither the order counts nor whether the idle letters are there. -/
  rearranged : ∀ f others, ofLetters letters = .ok f → others.Nodup →
    (others.filter (· ∉ idle)).Perm (letters.filter (· ∉ idle)) → ofLetters others = .ok f
  error_iff : ∀ e, ofLetters letters = .error e ↔
    ∃ p c, FirstFault letters p c ∧ e = fault letters (letters.take p) c
  /-- A letter without a meaning is never said to have come before. -/
  duplicate : ∀ c all, ofLetters letters = .error (.duplicate c all) → c ∈ alphabet ∧ all = letters

/-! ## One letter -/

theorem having_nil : having [] = {} := rfl

/-- A letter sets its own flag and no other, whatever was set before. -/
theorem set?_having (seen : List Char) (c : Char) :
    (having seen).set? c = if c ∈ alphabet then some (having (c :: seen)) else none := by
  by_cases h : c ∈ alphabet
  · rw [if_pos h]
    simp only [alphabet, List.mem_cons, List.not_mem_nil, or_false] at h
    rcases h with rfl | rfl | rfl | rfl | rfl | rfl | rfl | rfl | rfl <;> simp [set?, having]
  · rw [if_neg h]
    simp only [alphabet, List.mem_cons, List.not_mem_nil, or_false, not_or] at h
    simp [set?, h]

theorem setLetters_of_new (letters rest : List Char) {seen : List Char} {c : Char}
    (hc : c ∈ alphabet) (hnew : c ∉ seen) :
    setLetters letters (having seen) seen (c :: rest) =
      setLetters letters (having (c :: seen)) (c :: seen) rest := by
  rw [setLetters, if_neg hnew, set?_having, if_pos hc]

theorem setLetters_of_fault (letters rest : List Char) {seen : List Char} {c : Char}
    (h : c ∉ alphabet ∨ c ∈ seen) :
    setLetters letters (having seen) seen (c :: rest) = .error (fault letters seen c) := by
  by_cases hseen : c ∈ seen
  · rw [setLetters, if_pos hseen, fault, if_pos hseen]
  · have hc : c ∉ alphabet := h.resolve_right hseen
    rw [setLetters, if_neg hseen, set?_having, if_neg hc, fault, if_neg hseen]

/-! ## All letters -/

/-- Reading goes on behind letters that can be read, with the flags of those. -/
theorem setLetters_append (letters rest : List Char) {good seen : List Char}
    (hnew : (good.reverse ++ seen).Nodup) (hgood : ∀ c ∈ good, c ∈ alphabet) :
    setLetters letters (having seen) seen (good ++ rest) =
      setLetters letters (having (good.reverse ++ seen)) (good.reverse ++ seen) rest := by
  induction good generalizing seen with
  | nil => rfl
  | cons c good ih =>
    have hsplit : (c :: good).reverse ++ seen = good.reverse ++ c :: seen := by simp
    rw [hsplit] at hnew ⊢
    have hc : c ∉ seen := fun hmem =>
      (List.nodup_middle.mp hnew).notMem (List.mem_append_right _ hmem)
    rw [List.cons_append, setLetters_of_new letters _ (hgood c List.mem_cons_self) hc]
    exact ih hnew fun d hd => hgood d (List.mem_cons_of_mem _ hd)

theorem Readable.setLetters_append {good : List Char} (h : Readable good)
    (letters rest : List Char) :
    setLetters letters {} [] (good ++ rest) =
      setLetters letters (having good.reverse) good.reverse rest := by
  have hnew : (good.reverse ++ []).Nodup := by
    rw [List.append_nil]
    exact List.nodup_reverse.mpr h.1
  have hgo := Flags.setLetters_append letters rest hnew h.2
  rwa [List.append_nil, having_nil] at hgo

/-- Only letters that are not idle count, and of these only whether they are there. -/
theorem having_congr {xs ys : List Char} (h : ∀ c ∉ idle, c ∈ xs ↔ c ∈ ys) :
    having xs = having ys := by
  have hi := h 'i' (by decide)
  have hm := h 'm' (by decide)
  have hs := h 's' (by decide)
  have hx := h 'x' (by decide)
  have hr := h 'R' (by decide)
  have hu := h 'U' (by decide)
  simp only [having, hi, hm, hs, hx, hr, hu]

theorem ofLetters_of_readable {letters : List Char} (h : Readable letters) :
    ofLetters letters = .ok (having letters) := by
  have hgo := h.setLetters_append letters []
  rw [List.append_nil] at hgo
  rw [ofLetters, hgo, setLetters]
  exact congrArg _ (having_congr fun c _ => List.mem_reverse)

/-! ## Faults -/

/-- Letters before which no fault lies can be read. -/
theorem readable_take {letters : List Char} {p : Nat}
    (h : ∀ q < p, ∀ d, ¬FaultAt letters q d) : Readable (letters.take p) := by
  induction p with
  | zero => simp [Readable]
  | succ p ih =>
    obtain ⟨hnodup, hmem⟩ := ih fun q hq => h q (Nat.lt_succ_of_lt hq)
    rw [List.take_add_one]
    cases hc : letters[p]? with
    | none =>
      rw [Option.toList_none, List.append_nil]
      exact ⟨hnodup, hmem⟩
    | some c =>
      have hfine : ¬(c ∉ alphabet ∨ c ∈ letters.take p) := fun hfault =>
        h p (Nat.lt_succ_self p) c ⟨hc, hfault⟩
      rw [not_or, not_not] at hfine
      rw [Option.toList_some]
      refine ⟨?_, ?_⟩
      · exact hnodup.append (List.nodup_singleton c) (by simpa using hfine.2)
      · intro d hd
        rcases List.mem_append.mp hd with hd | hd
        · exact hmem d hd
        · exact List.mem_singleton.mp hd ▸ hfine.1

theorem exists_firstFault {letters : List Char} (h : ¬Readable letters) :
    ∃ p c, FirstFault letters p c := by
  classical
  have hsome : ∃ p c, FaultAt letters p c := by
    by_contra hnone
    refine h ?_
    have htake : Readable (letters.take letters.length) :=
      readable_take fun q _ d hd => hnone ⟨q, d, hd⟩
    rwa [List.take_length] at htake
  obtain ⟨c, hc⟩ := Nat.find_spec hsome
  exact ⟨Nat.find hsome, c, hc, fun q hq d hd => Nat.find_min hsome hq ⟨d, hd⟩⟩

theorem FirstFault.ofLetters_eq {letters : List Char} {p : Nat} {c : Char}
    (h : FirstFault letters p c) :
    ofLetters letters = .error (fault letters (letters.take p) c) := by
  obtain ⟨⟨hc, hfault⟩, hbefore⟩ := h
  obtain ⟨hp, hget⟩ := List.getElem?_eq_some_iff.mp hc
  have hsplit : letters = letters.take p ++ c :: letters.drop (p + 1) := by
    rw [← hget, List.getElem_cons_drop, List.take_append_drop]
  have hgo := (readable_take hbefore).setLetters_append letters (c :: letters.drop (p + 1))
  rw [← hsplit] at hgo
  have hfault' : c ∉ alphabet ∨ c ∈ (letters.take p).reverse := by rwa [List.mem_reverse]
  rw [ofLetters, hgo, setLetters_of_fault _ _ hfault', fault, fault]
  simp only [List.mem_reverse]

theorem exists_ofLetters_eq_ok_iff (letters : List Char) :
    (∃ f, ofLetters letters = .ok f) ↔ Readable letters := by
  constructor
  · rintro ⟨f, hf⟩
    by_contra h
    obtain ⟨p, c, hfirst⟩ := exists_firstFault h
    rw [hfirst.ofLetters_eq] at hf
    cases hf
  · intro h
    exact ⟨_, ofLetters_of_readable h⟩

theorem ofLetters_eq_error_iff (letters : List Char) (e : FlagError) :
    ofLetters letters = .error e ↔
      ∃ p c, FirstFault letters p c ∧ e = fault letters (letters.take p) c := by
  constructor
  · intro he
    have h : ¬Readable letters := by
      intro h
      rw [ofLetters_of_readable h] at he
      cases he
    obtain ⟨p, c, hfirst⟩ := exists_firstFault h
    rw [hfirst.ofLetters_eq] at he
    cases he
    exact ⟨p, c, hfirst, rfl⟩
  · rintro ⟨p, c, hfirst, rfl⟩
    exact hfirst.ofLetters_eq

/-! ## Other letters with the same flags -/

theorem Readable.of_perm {letters others : List Char} (h : Readable letters)
    (hnodup : others.Nodup)
    (hperm : (others.filter (· ∉ idle)).Perm (letters.filter (· ∉ idle))) :
    Readable others ∧ having others = having letters := by
  have hmem : ∀ c ∉ idle, c ∈ others ↔ c ∈ letters := by
    intro c hc
    have hiff := hperm.mem_iff (a := c)
    simpa [hc] using hiff
  refine ⟨⟨hnodup, ?_⟩, having_congr hmem⟩
  intro c hc
  by_cases hidle : c ∈ idle
  · have hsub : idle ⊆ alphabet := by decide
    exact hsub hidle
  · exact h.2 c ((hmem c hidle).mp hc)

/-- All letters are read, or else the first fault among them is told. -/
theorem readsLetters (letters : List Char) : ReadsLetters letters where
  ok_iff := exists_ofLetters_eq_ok_iff letters
  flags_eq f hf := by
    have h := (exists_ofLetters_eq_ok_iff letters).mp ⟨f, hf⟩
    rw [ofLetters_of_readable h] at hf
    cases hf
    rfl
  rearranged f others hf hnodup hperm := by
    have h := (exists_ofLetters_eq_ok_iff letters).mp ⟨f, hf⟩
    obtain ⟨hothers, hsame⟩ := h.of_perm hnodup hperm
    rw [ofLetters_of_readable hothers, hsame, ← ofLetters_of_readable h, hf]
  error_iff := ofLetters_eq_error_iff letters
  duplicate c all he := by
    obtain ⟨p, d, ⟨-, hbefore⟩, hfault⟩ := (ofLetters_eq_error_iff letters _).mp he
    rw [fault] at hfault
    split at hfault
    · next hd =>
      cases hfault
      exact ⟨(readable_take hbefore).2 c hd, rfl⟩
    · cases hfault

/-- A letter without a meaning hides that one behind it comes twice. -/
example : ofLetters ['g', 'q', 'g'] = .error (.unknown 'q') := by decide

end Rewind.Flags
