import Rewind.Window.Basic

/-! Commands: the operations of a window as data. -/
namespace Rewind.Window

inductive Command (α : Type) where
  | push (x : α)
  | pushAll (xs : List α)
  | next
  | peek (n : Nat)
  | get (i : Nat)
  | advance (n : Nat)
  | mark
  | rewind (cursor : Nat)
  | admits (cursor : Nat)
  | release
  | walk (calls : List Ring.Walk.Call)
  | newestFirst
  | describe
  | fork (commands : List (Command α))

/-- What a command answers. Each step of a fork has the window that it left and, in its journal, the
events of that step alone. -/
inductive Reply (α : Type) where
  | done
  | refused (e : CheckpointError)
  | item (x : Option α)
  | count (n : Nat)
  | answers (xs : List (Ring.Walk.Answer α))
  | items (xs : List α)
  | text (s : String)
  | fork (steps : List (Reply α × Window α))

variable {α : Type}

/-- Replaces the window if the new one could be reached. -/
def settle (w : Window α) : Except CheckpointError (Window α) → Reply α × Window α
  | .ok v => (.done, v)
  | .error e => (.refused e, w)

mutual

/-- Runs one command; a fork runs on a copy and leaves the window as it was. -/
def perform (render : α → String) : Command α → Window α → Reply α × Window α
  | .push x, w => (.done, w.push x)
  | .pushAll xs, w => (.done, w.pushAll xs)
  | .next, w => (.item w.next.1, w.next.2)
  | .peek n, w => (.item (w.peek? n), w)
  | .get i, w => (.item (w.get? i), w)
  | .advance n, w => (.count (min n w.ahead), w.advance n)
  | .mark, w => (.count w.cursor, w)
  | .rewind c, w => w.settle (w.rewind c)
  | .admits c, w => w.settle ((w.admits c).map fun _ => w)
  | .release, w => (.count w.behind, w.release)
  | .walk calls, w => (.answers (w.walk.answers calls), w)
  | .newestFirst, w => (.items w.toList.reverse, w)
  | .describe, w => (.text (w.describe render), w)
  | .fork cs, w => (.fork (performAll render cs w), w)

/-- Runs commands in order, each from an empty journal. -/
def performAll (render : α → String) : List (Command α) → Window α → List (Reply α × Window α)
  | [], _ => []
  | c :: cs, w =>
    perform render c w.quiet :: performAll render cs (perform render c w.quiet).2

end

end Rewind.Window
