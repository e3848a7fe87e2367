import Rewind.Ring.Walk

/-! Commands: the operations of a ring as data, so that whole runs can be spoken of. -/
namespace Rewind.Ring

inductive Command (α : Type) where
  | push (x : α)
  | pushAll (xs : List α)
  | pop
  | peek (n : Nat)
  | drop (n : Nat)
  | clear
  | bound
  | capacity
  | walk (calls : List Walk.Call)
  | newestFirst
  | describe
  | fork (commands : List (Command α))

/-- What a command answers. A fork answers with the replies of its own commands, each with the ring
that it left. -/
inductive Reply (α : Type) where
  | done
  | full (e : Full α)
  | item (x : Option α)
  | count (n : Nat)
  | nothing
  | answers (xs : List (Walk.Answer α))
  | items (xs : List α)
  | text (s : String)
  | fork (steps : List (Reply α × Ring α))

variable {α : Type}

def Reply.ofPush : Except (Full α) Unit → Reply α
  | .ok () => .done
  | .error e => .full e

mutual

/-- Runs one command; a fork runs on a copy and leaves the ring as it was. -/
def perform (render : α → String) : Command α → Ring α → Reply α × Ring α
  | .push x, r => (.ofPush (r.pushAll [x]).1, (r.pushAll [x]).2)
  | .pushAll xs, r => (.ofPush (r.pushAll xs).1, (r.pushAll xs).2)
  | .pop, r =>
    match r.pop? with
    | some (x, s) => (.item (some x), s)
    | none => (.item none, r)
  | .peek n, r => (.item (r.get? n), r)
  | .drop n, r => (.count (min n r.size), r.drop n)
  | .clear, r => (.nothing, r.clear)
  | .bound, r => (.count r.bound, r)
  | .capacity, r => (.count r.capacity, r)
  | .walk calls, r => (.answers ((r.walkFrom 0).answers calls), r)
  | .newestFirst, r => (.items r.toList.reverse, r)
  | .describe, r => (.text (r.describe render), r)
  | .fork cs, r => (.fork (performAll render cs r), r)

def performAll (render : α → String) : List (Command α) → Ring α → List (Reply α × Ring α)
  | [], _ => []
  | c :: cs, r => perform render c r :: performAll render cs (perform render c r).2

end

end Rewind.Ring
