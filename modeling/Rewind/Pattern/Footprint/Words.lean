import Rewind.Pattern.Footprint.Layout

/-! Layouts of choices between words. The words share their beginnings, as far as this leaves the
order of preference as it is: what comes behind a word that ends here shares nothing with what comes
before it. -/
namespace Rewind.Layout

abbrev Word := List UInt8

def bytes (cs : List Char) : Word := cs.flatMap String.utf8EncodeChar

/-- The words that are not at their end, cut where one is. -/
def chunks : List Word → List (List Word)
  | [] => [[]]
  | [] :: words => [] :: chunks words
  | word :: words =>
    match chunks words with
    | chunk :: rest => (word :: chunk) :: rest
    | [] => [[word]]

/-- Words at their end count once where nothing comes before them. -/
def dropRepeatedEnds : List Word → List Word
  | [] :: [] :: words => dropRepeatedEnds ([] :: words)
  | words => words

/-- For each byte with which words begin, what is left of these. -/
def tailsByHead (words : List Word) : List (List Word) :=
  (words.filterMap List.head?).eraseDups.map fun b =>
    words.filterMap fun word => if word.head? = some b then some word.tail else none

/-- Lays out words of at most `n` bytes: behind the subtrees a state for each chunk, and a fork into
the chunks and the ends between them. -/
def wordTree : Nat → List Word → Layout Unit
  | 0, _ => return ()
  | n + 1, words => do
    let cut := chunks (dropRepeatedEnds words)
    let full := cut.filter fun chunk => !chunk.isEmpty
    full.forM fun chunk => do
      let tails := tailsByHead chunk
      tails.forM fun words => if words.all List.isEmpty then return () else wordTree n words
      grow 1 (if tails.length = 1 then 0 else transitionCost * tails.length)
    grow 1 (exitCost * (full.length + (cut.length - 1)))

def words (d : Direction) (texts : List (List Char)) : Layout Unit := do
  let words := texts.map fun cs =>
    match d with
    | .forwards => bytes cs
    | .backwards => (bytes cs).reverse
  plain
  wordTree (words.foldl (fun n word => max n word.length) 0) words

end Rewind.Layout
