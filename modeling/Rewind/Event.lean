/-! Events: what a window and a scanner report about their bookkeeping. -/
namespace Rewind

inductive Event where
  | grew (slots retained : Nat)
  | restored (before after : Nat)
  | offsetRestored (before after : Nat)
  | released (units : Nat)
  deriving DecidableEq, Repr

namespace Event

/-- Growth is worth a developer's attention; the rest is for following a run step by step. -/
def level : Event → String
  | grew _ _ => "DEBUG"
  | _ => "TRACE"

def message : Event → String
  | grew slots retained => s!"token buffer grew to {slots} slots ({retained} retained)"
  | restored before after => s!"token buffer restored {before} -> {after}"
  | offsetRestored before after => s!"reader offset restored {before} -> {after}"
  | released units => s!"token buffer released {units} units"

def line (e : Event) : String := e.level ++ " " ++ e.message

end Event

end Rewind
