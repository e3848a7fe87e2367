import Rewind.Scanner.Rule

/-! Sessions: a scanner with the checkpoints saved so far, driven by commands. A list of commands
can be run as a rule, which fails at the first command whose reply is a failure. -/
namespace Rewind

structure Session where
  scanner : Scanner
  saved : List Checkpoint

namespace Session

/-- Where to go back to: a saved checkpoint by its number, or one that is described. -/
inductive Target where
  | slot (n : Nat)
  | described (d : Datum)

inductive Command where
  | next
  | peek
  | lookAhead (n : Nat)
  | advance (n : Nat)
  | accept (c : Char)
  | takeWhile (d : CriterionSource)
  | takeUntil (d : CriterionSource)
  | startsWith (cs : List Char)
  | acceptText (cs : List Char)
  | acceptBefore (cs : List Char) (d : CriterionSource)
  | acceptKeyword (cs : List Char)
  | acceptPattern (p : PatternSource)
  | save
  | rewind (t : Target)
  | release
  | rest
  | text
  | takeSpace
  | takeWord
  | inWord (c : Char)
  | inSpace (c : Char)
  | classify (cs : List Char)
  | options
  | fail
  /-- Runs commands as a rule; those marked optional may fail. -/
  | attempt (rule : List (Command × Bool))
  | fork (commands : List Command)

/-- Why a command had no other reply. -/
inductive Fault where
  | source (e : SourceError)
  | checkpoint (e : CheckpointError)
  | shape
  | noSuchSlot

/-- What a command replies. The steps of an attempt or a fork come with the sessions that they left,
in whose windows the journal holds the events of that step. -/
inductive Reply where
  | unit (c : Option Char)
  | count (n : Nat)
  | countIf (n : Option Nat)
  | text (cs : List Char)
  | truth (b : Bool)
  | found (m : Option Match)
  | saved (slot : Nat) (c : Checkpoint)
  | done
  | classes (cs : List (Bool × Bool))
  | options (o : Options)
  | nothing
  | fault (f : Fault)
  | attempt (outcome : Attempt Unit) (steps : List (Reply × Session))
  | fork (steps : List (Reply × Session))

/-- Whether a reply makes a rule fail. -/
def Reply.isFailure : Reply → Bool
  | unit none => true
  | countIf none => true
  | truth false => true
  | found none => true
  | nothing => true
  | fault _ => true
  | attempt (.accepted _) _ => false
  | attempt _ _ => true
  | _ => false

def quiet (s : Session) : Session :=
  { s with scanner := { s.scanner with window := s.scanner.window.quiet } }

/-- Runs a scan and makes its outcome a reply. -/
def lift {α : Type} (s : Session) (scan : Scan α) (reply : α → Reply) : Reply × Session :=
  (reply (scan s.scanner).1, { s with scanner := (scan s.scanner).2 })

/-- Goes on with what a source describes, or replies with what is wrong with it. -/
def withSource {α : Type} (s : Session) (r : Except SourceError α)
    (next : α → Reply × Session) : Reply × Session :=
  match r with
  | .ok a => next a
  | .error e => (.fault (.source e), s)

def resolve (s : Session) : Target → Except Fault Checkpoint
  | .slot n =>
    match s.saved[n]? with
    | some c => .ok c
    | none => .error .noSuchSlot
  | .described d =>
    match Checkpoint.ofDatum d with
    | .ok c => .ok c
    | .error _ => .error .shape

def rewind (s : Session) (t : Target) : Reply × Session :=
  match s.resolve t with
  | .error f => (.fault f, s)
  | .ok c => s.lift (Scanner.rewind c) fun
    | .ok _ => .done
    | .error e => .fault (.checkpoint e)

mutual

/-- Runs one command; a fork runs on a copy and leaves the session as it was. -/
def perform : Command → Session → Reply × Session
  | .next, s => s.lift Scanner.next .unit
  | .peek, s => s.lift Scanner.peek .unit
  | .lookAhead n, s => s.lift (Scanner.lookAhead n) .unit
  | .advance n, s => s.lift (Scanner.advance n) .count
  | .accept c, s => s.lift (Scanner.accept c) .unit
  | .takeWhile d, s =>
    s.withSource d.compile fun d => s.lift (Scanner.takeWhile d.holds) .text
  | .takeUntil d, s =>
    s.withSource d.compile fun d => s.lift (Scanner.takeUntil d.holds) .text
  | .startsWith cs, s => s.lift (Scanner.startsWith cs) .countIf
  | .acceptText cs, s => s.lift (Scanner.acceptText cs) .truth
  | .acceptBefore cs d, s =>
    s.withSource d.compile fun d => s.lift (Scanner.acceptBefore cs d.holds) .truth
  | .acceptKeyword cs, s => s.lift (Scanner.acceptKeyword cs) .truth
  | .acceptPattern p, s =>
    s.withSource p.compile fun p => s.lift (Scanner.acceptPattern p) .found
  | .save, s =>
    (.saved s.saved.length s.scanner.here,
      { s with saved := s.saved ++ [s.scanner.here] })
  | .rewind t, s => s.rewind t
  | .release, s => s.lift Scanner.release .count
  | .rest, s => (.text s.scanner.rest, s)
  | .text, s => (.text s.scanner.text, s)
  | .takeSpace, s => s.lift Scanner.takeSpace .text
  | .takeWord, s => s.lift Scanner.takeWord .text
  | .inWord c, s => (.truth (s.scanner.inWord c), s)
  | .inSpace c, s => (.truth (s.scanner.inSpace c), s)
  | .classify cs, s => (.classes (cs.map fun c => (s.scanner.inWord c, s.scanner.inSpace c)), s)
  | .options, s => (.options s.scanner.options, s)
  | .fail, s => (.nothing, s)
  | .attempt rule, s =>
    let (ok, steps, t) := performRule rule s
    let (outcome, scanner) :=
      Scanner.settle s.scanner.here (if ok then some () else none) t.scanner
    (.attempt outcome steps, { t with scanner := scanner })
  | .fork cs, s => (.fork (performAll cs s), s)

/-- Runs commands until one fails that must not. The session is that after the last one run. -/
def performRule : List (Command × Bool) → Session → Bool × List (Reply × Session) × Session
  | [], s => (true, [], s.quiet)
  | (c, optional) :: cs, s =>
    let (reply, t) := perform c s.quiet
    if reply.isFailure && !optional then (false, [(reply, t)], t.quiet)
    else
      let (ok, steps, u) := performRule cs t
      (ok, (reply, t) :: steps, u)

/-- Runs commands in order, each from an empty journal. -/
def performAll : List Command → Session → List (Reply × Session)
  | [], _ => []
  | c :: cs, s => perform c s.quiet :: performAll cs (perform c s.quiet).2

end

def ofText (text : List Char) (options : Options) : Session :=
  ⟨.ofText text options, []⟩

end Session

end Rewind
