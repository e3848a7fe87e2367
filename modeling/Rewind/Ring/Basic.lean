/-! Rings: queues over `2 ^ bound` slots that never grow. The element `i` places behind the oldest
lies in slot `(head + i) % 2 ^ bound`; all other slots are empty. -/
namespace Rewind

/-- The number of slots for a bound, which doubles as the bound goes up by one. -/
def Ring.slotCount : Nat → Nat
  | 0 => 1
  | bound + 1 => 2 * Ring.slotCount bound

theorem Ring.slotCount_pos (bound : Nat) : 0 < Ring.slotCount bound := by
  induction bound with
  | zero => decide
  | succ b ih => simp only [Ring.slotCount]; omega

/-- The element that a full ring turned away. -/
structure Full (α : Type) where
  capacity : Nat
  rejected : α

def Full.message {α : Type} (e : Full α) : String :=
  s!"ring queue is full (capacity {e.capacity})"

/-- More slots were asked for than can be addressed. -/
structure BoundError where
  bound : Nat

structure Ring (α : Type) where
  bound : Nat
  slots : Vector (Option α) (Ring.slotCount bound)
  head : Nat
  size : Nat
  head_lt : head < Ring.slotCount bound
  size_le : size ≤ Ring.slotCount bound

namespace Ring

variable {α : Type}

def largestBound : Nat := 62

end Ring

def BoundError.message (e : BoundError) : String :=
  s!"ring bound {e.bound} exceeds {Ring.largestBound}"

namespace Ring

variable {α : Type}

def empty (bound : Nat) : Ring α where
  bound := bound
  slots := Vector.replicate (slotCount bound) none
  head := 0
  size := 0
  head_lt := slotCount_pos bound
  size_le := Nat.zero_le _

/-- An empty ring, unless its slots could not be addressed. -/
def create (bound : Nat) : Except BoundError (Ring α) :=
  if bound ≤ largestBound then .ok (empty bound) else .error ⟨bound⟩

def capacity (r : Ring α) : Nat := slotCount r.bound

def isEmpty (r : Ring α) : Bool := r.size = 0

def isFull (r : Ring α) : Bool := r.size = r.capacity

/-- Where the element `i` places behind the oldest lies. -/
def slot (r : Ring α) (i : Nat) : Nat := (r.head + i) % slotCount r.bound

theorem slot_lt (r : Ring α) (i : Nat) : r.slot i < slotCount r.bound :=
  Nat.mod_lt _ (slotCount_pos r.bound)

/-- The element `i` places behind the oldest. -/
def get? (r : Ring α) (i : Nat) : Option α :=
  if i < r.size then r.slots.get ⟨r.slot i, r.slot_lt i⟩ else none

/-- The elements, oldest first. -/
def toList (r : Ring α) : List α := (List.range r.size).filterMap r.get?

def put (r : Ring α) (x : α) (h : r.size < slotCount r.bound) : Ring α :=
  { r with
    slots := r.slots.set (r.slot r.size) (some x) (r.slot_lt r.size)
    size := r.size + 1
    size_le := h }

/-- Appends an element, or hands it back. -/
def push (r : Ring α) (x : α) : Except (Full α) (Ring α) :=
  if h : r.size < slotCount r.bound then .ok (r.put x h) else .error ⟨r.capacity, x⟩

/-- Empties `n` slots from the one of the oldest element on. -/
def clearSlots (r : Ring α) : Nat → Vector (Option α) (slotCount r.bound)
  | 0 => r.slots
  | n + 1 => (r.clearSlots n).set (r.slot n) none (r.slot_lt n)

/-- Removes the `n` oldest elements, or all of them. -/
def drop (r : Ring α) (n : Nat) : Ring α :=
  { r with
    slots := r.clearSlots (min n r.size)
    head := r.slot (min n r.size)
    size := r.size - min n r.size
    head_lt := r.slot_lt _
    size_le := Nat.le_trans (Nat.sub_le ..) r.size_le }

def pop? (r : Ring α) : Option (α × Ring α) := (r.get? 0).map fun x => (x, r.drop 1)

/-- Removes all elements and goes back to the first slot. -/
def clear (r : Ring α) : Ring α :=
  { r.drop r.size with
    head := 0
    head_lt := slotCount_pos _ }

/-- A ring with twice the slots and the same elements, laid out from its first slot. -/
def double (r : Ring α) : Ring α where
  bound := r.bound + 1
  slots := Vector.ofFn fun i => r.get? i
  head := 0
  size := r.size
  head_lt := slotCount_pos _
  size_le := by
    have := r.size_le
    simp only [slotCount]
    omega

theorem size_lt_double (r : Ring α) : r.double.size < slotCount r.double.bound := by
  have := r.size_le
  have := slotCount_pos r.bound
  simp only [double, slotCount]
  omega

/-- Appends all of a list in order, stopping at the first element that finds no slot. -/
def pushAll (r : Ring α) : List α → Except (Full α) Unit × Ring α
  | [] => (.ok (), r)
  | x :: xs =>
    match r.push x with
    | .ok s => s.pushAll xs
    | .error e => (.error e, r)

def describe (render : α → String) (r : Ring α) : String :=
  let cell : Option α → String
    | none => "None"
    | some x => "Some(" ++ render x ++ ")"
  "RingQueue \x7b slots: [" ++ ", ".intercalate (r.slots.toList.map cell) ++ "], mask: " ++
    toString (r.capacity - 1) ++ ", start: " ++ toString r.head ++ ", len: " ++
    toString r.size ++ " \x7d"

end Ring

end Rewind
