/-! Texts as lists of characters, addressed by byte offset in their UTF-8 form. An offset inside a
character names no position. -/
namespace Rewind.Text

def width : List Char → Nat
  | [] => 0
  | c :: cs => c.utf8Size + width cs

/-- The longest initial part of at most `n` bytes. -/
def takeBytes (n : Nat) : List Char → List Char
  | [] => []
  | c :: cs => if c.utf8Size ≤ n then c :: takeBytes (n - c.utf8Size) cs else []

/-- What `takeBytes` leaves. -/
def dropBytes (n : Nat) : List Char → List Char
  | [] => []
  | c :: cs => if c.utf8Size ≤ n then dropBytes (n - c.utf8Size) cs else c :: cs

def slice (cs : List Char) (start stop : Nat) : List Char :=
  takeBytes (stop - start) (dropBytes start cs)

/-- The position `n` bytes on: the character before it and the text after it. There is none inside a
character or behind the end. `before` is the character before the text. -/
def seek? (before : Option Char) (n : Nat) : List Char → Option (Option Char × List Char)
  | [] => if n = 0 then some (before, []) else none
  | c :: cs =>
    if n = 0 then some (before, c :: cs)
    else if c.utf8Size ≤ n then seek? (some c) (n - c.utf8Size) cs
    else none

def isBoundary (n : Nat) : List Char → Bool
  | [] => n = 0
  | c :: cs => n = 0 || (c.utf8Size ≤ n && isBoundary (n - c.utf8Size) cs)

theorem takeBytes_append_dropBytes (n : Nat) (cs : List Char) :
    takeBytes n cs ++ dropBytes n cs = cs := by
  induction cs generalizing n with
  | nil => rfl
  | cons c cs ih =>
    by_cases h : c.utf8Size ≤ n
    · simp [takeBytes, dropBytes, h, ih]
    · simp [takeBytes, dropBytes, h]

theorem width_append (a b : List Char) : width (a ++ b) = width a + width b := by
  induction a with
  | nil => simp [width]
  | cons c a ih => simp [width, ih, Nat.add_assoc]

end Rewind.Text
