import Mathlib.Algebra.GroupWithZero.Nat
import Rewind.Options

/-! What expressions take at most. A layout fails only at the limit, so where a bound on its bytes is
below the limit it succeeds. The bound follows the expression (`Regex.bytesBound`); that parts of sets
are shared is not reckoned with. Choices between words are left out. -/
namespace Rewind

namespace Layout

variable {α β : Type} {m n : Nat}

/-- Unless that gets it to the limit, a layout adds at most `n` bytes and does not fail. -/
def Takes (l : Layout α) (n : Nat) : Prop :=
  ∀ t : Tally, t.bytes + n ≤ footprintLimit → ∃ a u, l t = some (a, u) ∧ u.bytes ≤ t.bytes + n

namespace Takes

theorem mono {l : Layout α} (h : l.Takes m) (hmn : m ≤ n) : l.Takes n := by
  intro t ht
  obtain ⟨a, u, hl, hu⟩ := h t (by omega)
  exact ⟨a, u, hl, by omega⟩

theorem pure (a : α) (n : Nat) : Takes (Pure.pure a) n :=
  fun t _ => ⟨a, t, rfl, Nat.le_add_right _ _⟩

/-- What follows adds to the bound, for those outcomes that there can be. -/
theorem bind {l : Layout α} {k : α → Layout β} (hl : l.Takes m)
    (hk : ∀ a t u, l t = some (a, u) → (k a).Takes n) : (l >>= k).Takes (m + n) := by
  intro t ht
  obtain ⟨a, u, hrun, hu⟩ := hl t (by omega)
  obtain ⟨b, v, hrun', hv⟩ := hk a t u hrun u (by omega)
  refine ⟨b, v, ?_, by omega⟩
  show (l t).bind _ = _
  rw [hrun]
  exact hrun'

theorem grow (states lists : Nat) : (Layout.grow states lists).Takes (32 * states + lists) := by
  intro t ht
  have hbytes : (⟨t.states + states, t.lists + lists⟩ : Tally).bytes =
      t.bytes + (32 * states + lists) := by
    simp only [Tally.bytes, stateCost]
    omega
  refine ⟨(), _, if_pos ?_, ?_⟩
  · rw [hbytes]
    exact ht
  · exact Nat.le_of_eq hbytes

theorem state (lists : Nat) : (Layout.state lists).Takes (32 + lists) := by
  intro t ht
  obtain ⟨_, u, hgrow, hu⟩ := grow 1 lists t ht
  refine ⟨t.states, u, ?_, hu⟩
  show (Layout.grow 1 lists t).bind _ = _
  rw [hgrow]
  rfl

theorem plain : Layout.plain.Takes 32 := grow 1 0

theorem fork : Layout.fork.Takes 40 := grow 1 8

theorem exit : Layout.exit.Takes 4 := grow 0 4

theorem copies {once : Layout Unit} (h : once.Takes m) (n : Nat) :
    (Layout.copies once n).Takes (n * m) := by
  induction n with
  | zero => exact pure () _
  | succ n ih => exact (h.bind fun _ _ _ _ => ih).mono (by rw [Nat.succ_mul]; omega)

end Takes

/-! ## Layouts with a table of parts -/

/-- Whatever the table recalls. -/
def TakesRecalling (l : StateT Recall Layout α) (n : Nat) : Prop :=
  ∀ table, Takes (l.run table) n

namespace TakesRecalling

theorem mono {l : StateT Recall Layout α} (h : TakesRecalling l m) (hmn : m ≤ n) :
    TakesRecalling l n := fun table => (h table).mono hmn

theorem pure (a : α) (n : Nat) : TakesRecalling (Pure.pure a) n := fun _ => .pure _ n

theorem bind {l : StateT Recall Layout α} {k : α → StateT Recall Layout β}
    (hl : TakesRecalling l m)
    (hk : ∀ a table t r u, l.run table t = some ((a, r), u) → TakesRecalling (k a) n) :
    TakesRecalling (l >>= k) (m + n) :=
  fun table => (hl table).bind fun a t u hrun => hk a.1 table t a.2 u hrun a.2

theorem lift {l : Layout α} (h : l.Takes n) : TakesRecalling (liftM l) n :=
  fun table => h.bind (k := fun a => Pure.pure (a, table)) fun _ _ _ _ => .pure _ 0

theorem change (f : Recall → Recall) : TakesRecalling (modify f) 0 := fun _ => .pure _ 0

theorem stateOf (places : Nat) (part : List Nat) (lists : Nat) :
    TakesRecalling (stateOf places part lists) (32 + lists) := by
  have hadd : TakesRecalling (do
      let number ← state lists
      modify fun table : Recall => table.insert (place places part) (part, number)
      return number) (32 + lists) := by
    exact (lift (Takes.state lists)).bind (n := 0) fun _ _ _ _ _ _ =>
      (change _).bind (n := 0) fun _ _ _ _ _ _ => pure _ 0
  have hget : TakesRecalling (get : StateT Recall Layout Recall) 0 := fun _ => .pure _ 0
  unfold Layout.stateOf
  refine (hget.bind fun table _ _ _ _ _ => ?_).mono (Nat.le_of_eq (Nat.zero_add _))
  split
  · split
    · exact pure _ _
    · exact hadd
  · exact hadd

/-- One layout for each of several things. -/
theorem mapM {f : α → StateT Recall Layout β} {c : α → Nat} (l : List α)
    (h : ∀ a ∈ l, TakesRecalling (f a) (c a)) :
    TakesRecalling (l.mapM f) (l.map c).sum := by
  induction l with
  | nil => exact pure [] _
  | cons a l ih =>
    rw [List.mapM_cons, List.map_cons, List.sum_cons]
    refine (h a List.mem_cons_self).bind fun b _ _ _ _ _ => ?_
    exact ((ih fun x hx => h x (List.mem_cons_of_mem _ hx)).bind
      fun _ _ _ _ _ _ => pure _ 0).mono (Nat.le_refl _)

end TakesRecalling

theorem length_of_mapM {f : α → StateT Recall Layout β} {l : List α} {bs : List β}
    {table table' : Recall} {t u : Tally} (h : (l.mapM f).run table t = some ((bs, table'), u)) :
    bs.length = l.length := by
  induction l generalizing bs table table' t u with
  | nil =>
    cases h
    rfl
  | cons a l ih =>
    rw [List.mapM_cons] at h
    obtain ⟨⟨⟨b, r⟩, v⟩, -, h⟩ := Option.bind_eq_some_iff.mp h
    obtain ⟨⟨⟨cs, r'⟩, v'⟩, hrest, h⟩ := Option.bind_eq_some_iff.mp h
    cases h
    exact congrArg (· + 1) (ih hrest)

/-! ## Sets -/

def total (seqs : List ByteSequence) : Nat := (seqs.map List.length).sum

theorem branches_total (seqs : List ByteSequence) :
    ((branches seqs).map fun b => total b.2 + 1).sum ≤ total seqs := by
  induction seqs with
  | nil => exact Nat.le_refl _
  | cons seq seqs ih =>
    cases seq with
    | nil => simpa [branches, total] using ih
    | cons r tail =>
      rw [branches]
      split
      · next r' tails rest hrest =>
        rw [hrest] at ih
        simp only [total, List.map_cons, List.sum_cons, List.length_cons] at ih ⊢
        split
        · simp only [List.map_cons, List.sum_cons]
          omega
        · simp only [List.map_cons, List.sum_cons, List.map_nil, List.sum_nil]
          omega
      · simp [total]

theorem takes_tree (stop n : Nat) (seqs : List ByteSequence) :
    TakesRecalling (tree stop n seqs) (32 + 40 * total seqs) := by
  induction n generalizing seqs with
  | zero => exact .pure _ _
  | succ n ih =>
    have hexits := TakesRecalling.mapM (c := fun b => 32 + 40 * total b.2)
      (f := fun b : Text.ByteRange × List ByteSequence => do
        let next ← if b.2.all List.isEmpty then pure stop else tree stop n b.2
        return [b.1.1, b.1.2, next]) (branches seqs) fun b _ => by
      dsimp only
      split
      · exact .pure _ _
      · exact (ih b.2).bind (n := 0) fun _ _ _ _ _ _ => .pure _ _
    have hsum : ∀ bs : List (Text.ByteRange × List ByteSequence),
        (bs.map fun b => 32 + 40 * total b.2).sum + 8 * bs.length =
          40 * (bs.map fun b => total b.2 + 1).sum := by
      intro bs
      induction bs with
      | nil => rfl
      | cons b bs ih =>
        simp only [List.map_cons, List.sum_cons, List.length_cons]
        omega
    have htotal := branches_total seqs
    have hall := hsum (branches seqs)
    refine (hexits.bind (n := 32 + 8 * (branches seqs).length)
      fun exits table t r u hrun => ?_).mono (by omega)
    rw [← length_of_mapM hrun]
    exact TakesRecalling.stateOf _ _ _

theorem takes_chain (stop : Nat) (seq : ByteSequence) :
    TakesRecalling (chain stop seq) (32 * seq.length) := by
  induction seq generalizing stop with
  | nil => exact .pure _ _
  | cons r seq ih =>
    refine ((TakesRecalling.stateOf 1000 [stop, r.1, r.2] 0).bind fun _ _ _ _ _ _ => ih _).mono ?_
    rw [List.length_cons]
    omega

theorem takes_chains (stop : Nat) (seqs : List ByteSequence) :
    TakesRecalling (chains stop seqs) (32 * total seqs) := by
  induction seqs with
  | nil => exact .pure _ _
  | cons seq seqs ih =>
    refine ((takes_chain stop seq).bind fun _ _ _ _ _ _ => ih).mono ?_
    simp only [total, List.map_cons, List.sum_cons]
    omega

/-- What a set takes at most in either direction. -/
def setBound (s : CharSet) : Nat :=
  64 + 8 * s.ranges.length + 4 * (sequencesOfSet s).length + 40 * total (sequencesOfSet s)

theorem takes_set (d : Direction) (s : CharSet) : (set d s).Takes (setBound s) := by
  unfold set setBound
  split
  · refine (Takes.plain.bind fun _ _ _ _ => Takes.grow 1 (transitionCost * s.ranges.length)).mono ?_
    show 32 + (32 * 1 + 8 * s.ranges.length) ≤ _
    omega
  · cases d with
    | forwards =>
      refine ((Takes.state 0).bind fun stop _ _ _ =>
        (takes_tree stop 4 (sequencesOfSet s) ∅).bind (n := 0) fun _ _ _ _ => .pure _ 0).mono ?_
      omega
    | backwards =>
      have hexits := Takes.grow 1 (exitCost * (sequencesOfSet s).length)
      refine (hexits.bind fun _ _ _ _ => (Takes.state 0).bind fun stop _ _ _ =>
        (takes_chains stop (sequencesOfSet s) ∅).bind (n := 0) fun _ _ _ _ => .pure _ 0).mono ?_
      show 32 * 1 + 4 * (sequencesOfSet s).length + (32 + 0 + (32 * total _ + 0)) ≤ _
      omega

end Layout

namespace Regex

/-- No choice between words is laid out for the expression. -/
def hasNoWords : Regex → Bool
  | rep _ _ _ sub => sub.hasNoWords
  | group _ _ sub => sub.hasNoWords
  | seq a b => a.hasNoWords && b.hasNoWords
  | alt a b => (alt a b).texts?.isNone && a.hasNoWords && b.hasNoWords
  | _ => true

/-- What an expression takes at most, wherever it stands. -/
def bytesBound : Regex → Nat
  | literal cs => 32 * Text.width cs + 72
  | set _ s => Layout.setBound s + 72
  | rep min max _ sub => (min + max.getD 0 + 1) * (sub.bytesBound + 40) + 184
  | group _ _ sub => sub.bytesBound + 136
  | seq a b => a.bytesBound + b.bytesBound + 72
  | alt a b => a.bytesBound + b.bytesBound + 72
  | _ => 104

open Layout (Takes)

theorem takes_close (place : Place) : place.close.Takes 72 := by
  cases place with
  | alone => exact .pure _ _
  | second => exact Takes.fork.bind fun _ _ _ _ => Takes.plain
  | later => exact Takes.exit.mono (by omega)

theorem takes_run {once : Layout Unit} {m : Nat} (h : once.Takes m) (n : Nat) :
    (run once n).Takes (32 + n * m) := by
  unfold run
  split
  · exact Takes.plain.mono (by omega)
  · exact (Takes.copies h n).mono (by omega)

theorem takes_lay {r : Regex} (h : r.hasNoWords = true) (d : Direction) (place : Place) :
    (r.lay d place).Takes r.bytesBound := by
  induction r generalizing place with
  | empty | look l =>
    simp only [lay]
    exact Takes.plain.bind fun _ _ _ _ => takes_close place
  | literal cs =>
    simp only [lay]
    exact (Takes.grow _ 0).bind fun _ _ _ _ => takes_close place
  | set bytes s =>
    simp only [lay]
    exact (Layout.takes_set d s).bind fun _ _ _ _ => takes_close place
  | seq a b iha ihb =>
    obtain ⟨ha, hb⟩ := Bool.and_eq_true_iff.mp h
    simp only [lay]
    cases d with
    | forwards =>
      refine ((iha ha .alone).bind fun _ _ _ _ => (ihb hb .alone).bind fun _ _ _ _ =>
        takes_close place).mono ?_
      rw [bytesBound]
      omega
    | backwards =>
      refine ((ihb hb .alone).bind fun _ _ _ _ => (iha ha .alone).bind fun _ _ _ _ =>
        takes_close place).mono ?_
      rw [bytesBound]
      omega
  | group index name sub ih =>
    simp only [lay]
    cases d with
    | forwards =>
      refine (Takes.plain.bind fun _ _ _ _ => (ih h .alone).bind fun _ _ _ _ =>
        Takes.plain.bind fun _ _ _ _ => takes_close place).mono ?_
      rw [bytesBound]
      omega
    | backwards =>
      refine ((ih h .alone).bind fun _ _ _ _ => takes_close place).mono ?_
      rw [bytesBound]
      omega
  | alt a b iha ihb =>
    obtain ⟨hab, hb⟩ := Bool.and_eq_true_iff.mp h
    obtain ⟨htexts, ha⟩ := Bool.and_eq_true_iff.mp hab
    rw [Option.isNone_iff_eq_none] at htexts
    simp only [lay, htexts]
    refine ((iha ha .alone).bind fun _ _ _ _ => (takes_close place).bind fun _ _ _ _ =>
      ihb hb _).mono ?_
    rw [bytesBound]
    omega
  | rep min max greedy sub ih =>
    have honce := ih h .alone
    have hclose := takes_close place
    simp only [lay]
    rw [bytesBound, Nat.mul_add, Nat.add_mul, Nat.add_mul]
    split
    · refine (Takes.fork.bind fun _ _ _ _ => honce.bind fun _ _ _ _ =>
        Takes.plain.bind fun _ _ _ _ => hclose).mono ?_
      omega
    · split
      · refine (honce.bind fun _ _ _ _ => Takes.fork.bind fun _ _ _ _ =>
          Takes.fork.bind fun _ _ _ _ => Takes.plain.bind fun _ _ _ _ => hclose).mono ?_
        omega
      · refine (Takes.fork.bind fun _ _ _ _ => honce.bind fun _ _ _ _ => hclose).mono ?_
        omega
    · refine ((Takes.copies honce _).bind fun _ _ _ _ => Takes.fork.bind fun _ _ _ _ =>
        hclose).mono ?_
      omega
    · next max _ =>
      have hfewer : (max - min) * (40 + sub.bytesBound) ≤ max * sub.bytesBound + max * 40 := by
        rw [← Nat.mul_add, Nat.add_comm 40]
        exact Nat.mul_le_mul_right _ (Nat.sub_le max min)
      split
      · refine ((takes_run honce min).bind fun _ _ _ _ => Takes.plain.bind fun _ _ _ _ =>
          (Takes.copies (Takes.fork.bind fun _ _ _ _ => honce) _).bind fun _ _ _ _ =>
            hclose).mono ?_
        simp only [Option.getD_some]
        omega
      · refine ((takes_run honce min).bind fun _ _ _ _ => hclose).mono ?_
        omega

theorem takes_layAll {r : Regex} (h : r.hasNoWords = true) (d : Direction) :
    (r.layAll d).Takes (r.bytesBound + 208) := by
  have hlay := takes_lay h d .alone
  have hopen : ∀ {l : Layout Unit} {n : Nat}, l.Takes n →
      (if r.anchored d then do Layout.plain; l
        else do Layout.fork; Layout.plain; Layout.grow 1 transitionCost; l).Takes (112 + n) := by
    intro l n hl
    split
    · exact (Takes.plain.bind fun _ _ _ _ => hl).mono (by omega)
    · refine (Takes.fork.bind fun _ _ _ _ => Takes.plain.bind fun _ _ _ _ =>
        (Takes.grow 1 transitionCost).bind fun _ _ _ _ => hl).mono ?_
      rw [transitionCost]
      omega
  cases d with
  | forwards =>
    refine (hopen (Takes.plain.bind fun _ _ _ _ => hlay.bind fun _ _ _ _ =>
      Takes.plain.bind fun _ _ _ _ => Takes.plain)).mono ?_
    omega
  | backwards =>
    refine (hopen (hlay.bind fun _ _ _ _ => Takes.plain)).mono ?_
    omega

/-- An expression fits where its bound is below the limit. The states around it are few. -/
theorem fits_of_bound {r : Regex} (h : r.hasNoWords = true)
    (hbound : r.bytesBound + 208 ≤ footprintLimit) : r.fits = true := by
  have hall : ∀ d, ((r.layAll d).run ⟨0, 0⟩).isSome = true := by
    intro d
    obtain ⟨a, u, hrun, -⟩ := takes_layAll h d ⟨0, 0⟩ (by simpa [Tally.bytes] using hbound)
    rw [show (r.layAll d).run ⟨0, 0⟩ = some (a, u) from hrun]
    rfl
  rw [fits, hall, hall]
  rfl

end Regex

/-- A pattern compiles where its text is read as a tree that stands for an expression within bounds. -/
theorem Pattern.compile_of_bound {k : Unicode.Catalog} {source : List Char} {flags : Flags}
    {r : Regex}
    (hread : (Written.parse? flags.ignoreWhitespace source).bind (·.regex? k flags) = some r)
    (hwords : r.hasNoWords = true) (hbound : r.bytesBound + 208 ≤ footprintLimit) :
    compileWith k source flags = .ok (ofRegex source flags r) := by
  obtain ⟨w, hw, hr⟩ := Option.bind_eq_some_iff.mp hread
  unfold compileWith
  rw [hw]
  simp only [hr, r.fits_of_bound hwords hbound, if_true]

namespace Options

theorem read_wordSource :
    (Written.parse? false wordSource.toList).bind (·.regex? .empty {}) =
      some standard.word.regex := by
  decide +kernel

theorem read_spaceSource :
    (Written.parse? false spaceSource.toList).bind (·.regex? .empty {}) =
      some standard.space.regex := by
  decide +kernel

theorem bytesBound_word : standard.word.regex.bytesBound + 432 ≤ footprintLimit := by
  decide +kernel

theorem bytesBound_space : standard.space.regex.bytesBound + 432 ≤ footprintLimit := by
  decide +kernel

/-- The classes that hold where no others are given are what their sources compile to. -/
theorem compile_wordSource : Pattern.compile wordSource.toList {} = .ok standard.word :=
  Pattern.compile_of_bound read_wordSource rfl (Nat.le_trans (Nat.add_le_add_left (by decide) _)
    bytesBound_word)

theorem compile_spaceSource : Pattern.compile spaceSource.toList {} = .ok standard.space :=
  Pattern.compile_of_bound read_spaceSource rfl (Nat.le_trans (Nat.add_le_add_left (by decide) _)
    bytesBound_space)

end Options

end Rewind
