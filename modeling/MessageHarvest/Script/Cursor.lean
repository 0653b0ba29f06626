import MessageHarvest.Text.Basic

/-!
A place in a source text: what is still to be read, and the line it is on.

A new line begins after a line feed, after a carriage return with a line feed, and after a carriage
return alone. A line break that ends the source begins no further line.
-/

namespace MessageHarvest.Script

structure Cursor where
  rest : Text
  line : Nat
  deriving Repr, DecidableEq

namespace Cursor

def ofText (source : Text) : Cursor := ⟨source, 1⟩

def lineAfter (c : Char) (rest : Text) (line : Nat) : Nat :=
  match rest with
  | [] => line
  | next :: _ =>
      if c = '\n' then line + 1
      else if c = '\r' then (if next = '\n' then line else line + 1)
      else line

def advance : Cursor → Cursor
  | ⟨[], line⟩ => ⟨[], line⟩
  | ⟨c :: rest, line⟩ => ⟨rest, lineAfter c rest line⟩

def advanceBy : Nat → Cursor → Cursor
  | 0, cursor => cursor
  | n + 1, cursor => advanceBy n cursor.advance

def atEnd (cursor : Cursor) : Bool := cursor.rest.isEmpty

theorem advance_rest (cursor : Cursor) : cursor.advance.rest = cursor.rest.tail := by
  cases cursor with
  | mk rest line => cases rest <;> rfl

theorem advanceBy_rest (n : Nat) (cursor : Cursor) :
    (advanceBy n cursor).rest = cursor.rest.drop n := by
  induction n generalizing cursor with
  | zero => rfl
  | succ n ih => simp [advanceBy, ih, advance_rest, List.drop_tail]

end Cursor

/-- Line terminators of the language; two of them do not count as line breaks of a `Cursor`. -/
def isLineTerminator (c : Char) : Bool :=
  c = '\n' || c = '\r' || c.toNat = 0x2028 || c.toNat = 0x2029

def isBlank (c : Char) : Bool :=
  c = ' ' || c = '\t' || c.toNat = 0x0B || c.toNat = 0x0C || c.toNat = 0xA0 || c.toNat = 0xFEFF ||
    c.toNat = 0x1680 || (0x2000 ≤ c.toNat && c.toNat ≤ 0x200A) || c.toNat = 0x202F ||
    c.toNat = 0x205F || c.toNat = 0x3000

end MessageHarvest.Script
