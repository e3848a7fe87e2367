/-! Ranges of characters in UTF-8. A range of characters splits into sequences of byte ranges, each
of which stands for all combinations of its bytes. -/
namespace Rewind.Text

abbrev ByteRange := Nat × Nat

/-- How many codes `k` continuation bytes tell apart. -/
def continuations : Nat → Nat
  | 0 => 1
  | k + 1 => 64 * continuations k

/-- The sequences for the codes `lo` to `hi` when `k` continuation bytes follow a first byte whose
marker is `lead`. Codes that share the upper digits of base 64 share the first byte. -/
def sequencesOf : (k lead lo hi : Nat) → List (List ByteRange)
  | 0, lead, lo, hi => [[(lead + lo, lead + hi)]]
  | k + 1, lead, lo, hi =>
    let m := continuations (k + 1)
    let shared (first last low high : Nat) : List (List ByteRange) :=
      (sequencesOf k 0x80 low high).map ((lead + first, lead + last) :: ·)
    if lo / m = hi / m then shared (lo / m) (hi / m) (lo % m) (hi % m)
    else
      let start := if lo % m = 0 then lo / m else lo / m + 1
      let stop := if hi % m = m - 1 then hi / m + 1 else hi / m
      (if lo % m = 0 then [] else shared (lo / m) (lo / m) (lo % m) (m - 1)) ++
        (if start < stop then shared start (stop - 1) 0 (m - 1) else []) ++
        (if hi % m = m - 1 then [] else shared (hi / m) (hi / m) 0 (hi % m))

/-- The byte sequences of a range of codes without surrogates. -/
def byteSequences (lo hi : Nat) : List (List ByteRange) :=
  [(0, 0x00, 0x0, 0x7F), (1, 0xC0, 0x80, 0x7FF), (2, 0xE0, 0x800, 0xFFFF),
    (3, 0xF0, 0x10000, 0x10FFFF)].flatMap fun (k, lead, first, last) =>
      if max lo first ≤ min hi last then sequencesOf k lead (max lo first) (min hi last) else []

end Rewind.Text
