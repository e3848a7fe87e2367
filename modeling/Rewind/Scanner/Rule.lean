import Rewind.Scanner.Basic

/-! Rules: procedures on a scanner that may fail. A failing rule leaves the scanner where it got to;
an attempt sends the scanner back. -/
namespace Rewind

abbrev Rule (α : Type) := OptionT (StateM Scanner) α

inductive Attempt (α : Type) where
  | accepted (a : α)
  | rejected
  /-- The rule failed after letting go of the position to go back to. -/
  | stranded

namespace Attempt

def message : String := "rule committed past its own start"

def get? {α : Type} : Attempt α → Option α
  | accepted a => some a
  | _ => none

end Attempt

namespace Scanner

variable {α : Type}

/-- Goes back to the start of a rule that failed. -/
def settle (start : Checkpoint) : Option α → Scan (Attempt α)
  | some a => return .accepted a
  | none => do
    match ← rewind start with
    | .ok _ => return .rejected
    | .error _ => return .stranded

def attempt (rule : Rule α) : Scan (Attempt α) := fun s =>
  settle s.here (rule s).1 (rule s).2

end Scanner

namespace Rule

variable {α β : Type}

/-- A rule that fails where a scan has no outcome. -/
def ofScan (scan : Scan (Option α)) : Rule α := scan

/-- A rule that fails where there is no value. -/
def ofOption (a : Option α) : Rule α := ofScan (pure a)

/-- A rule that has the outcome of a scan and does not fail. -/
def scan (scan : Scan α) : Rule α := OptionT.lift scan

/-- A rule that fails where a scan says no. -/
def require (scan : Scan Bool) : Rule Unit := do
  if !(← Rule.scan scan) then failure

/-- A rule that leaves the scanner in place when it fails. -/
def attempt (rule : Rule α) : Rule α :=
  ofScan ((Scanner.attempt rule : Scan (Attempt α)) >>= fun a => pure a.get?)

/-- Goes to a checkpoint or fails in place. -/
def rewind (c : Checkpoint) : Rule Unit := ofScan do
  match ← Scanner.rewind c with
  | .ok _ => return some ()
  | .error _ => return none

theorem bind_apply (rule : Rule β) (k : β → Rule α) (s : Scanner) :
    (rule >>= k : Rule α) s =
      match (rule s).1 with
      | some b => k b (rule s).2
      | none => (none, (rule s).2) := by
  have hrun : (rule >>= k : Rule α) s = (ofScan (fun _ => rule s) >>= k : Rule α) s := rfl
  rw [hrun]
  rcases rule s with ⟨_ | b, t⟩ <;> rfl

theorem orElse_apply (rule rule' : Rule α) (s : Scanner) :
    (rule <|> rule' : Rule α) s =
      match (rule s).1 with
      | some a => (some a, (rule s).2)
      | none => rule' (rule s).2 := by
  have hrun : (rule <|> rule' : Rule α) s = (ofScan (fun _ => rule s) <|> rule' : Rule α) s := rfl
  rw [hrun]
  rcases rule s with ⟨_ | a, t⟩ <;> rfl

theorem get_bind_apply (k : Scanner → Rule α) (s : Scanner) : (get >>= k : Rule α) s = k s s := rfl

theorem scan_bind_apply (m : Scan β) (k : β → Rule α) (s : Scanner) :
    (scan m >>= k : Rule α) s = k (m s).1 (m s).2 := rfl

end Rule

end Rewind
