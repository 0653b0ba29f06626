import MessageHarvest.Proofs.Text.CodeUnit
import MessageHarvest.Proofs.Text.Hex
import MessageHarvest.Script.Token
import Mathlib.Data.List.Chain

namespace MessageHarvest.Script

def lineEnds : List Text :=
  [['\n'], ['\r'], ['\r', '\n'], [Char.ofNat 0x2028], [Char.ofNat 0x2029]]

inductive Piece where
  | plain (c : Char)
  | letter (c : Char)
  | nul
  | hexPair (digits : Text)
  | fourDigits (digits : Text)
  | braced (digits : Text)
  | continuation (terminator : Text)
  deriving Repr, DecidableEq

namespace Piece

def text : Piece → Text
  | plain c => [c]
  | letter c => ['\\', c]
  | nul => ['\\', '0']
  | hexPair digits => '\\' :: 'x' :: digits
  | fourDigits digits => '\\' :: 'u' :: digits
  | braced digits => '\\' :: 'u' :: '\x7b' :: (digits ++ ['\x7d'])
  | continuation terminator => '\\' :: terminator

def letterValue (c : Char) : Char :=
  if c = 'n' then '\n'
  else if c = 'r' then '\r'
  else if c = 't' then '\t'
  else if c = 'b' then Char.ofNat 0x08
  else if c = 'f' then Char.ofNat 0x0C
  else if c = 'v' then Char.ofNat 0x0B
  else c

/-- The code point that a piece denotes, which may be a surrogate; a line continuation has none. -/
def points : Piece → List Nat
  | plain c => [c.toNat]
  | letter c => [(letterValue c).toNat]
  | nul => [0]
  | hexPair digits => [Text.hexNumber digits]
  | fourDigits digits => [Text.hexNumber digits]
  | braced digits => [Text.hexNumber digits]
  | continuation _ => []

def Formed (delimiter : Char) : Piece → Prop
  | plain c => c ≠ delimiter ∧ c ≠ '\\' ∧ c ≠ '\n' ∧ c ≠ '\r'
  | letter c => c.isDigit = false ∧ c ≠ 'x' ∧ c ≠ 'u' ∧ isLineTerminator c = false
  | nul => True
  | hexPair digits => digits.length = 2 ∧ Text.AllHex digits
  | fourDigits digits => digits.length = 4 ∧ Text.AllHex digits
  | braced digits => digits ≠ [] ∧ Text.AllHex digits ∧ Text.hexNumber digits < 0x110000
  | continuation terminator => terminator ∈ lineEnds

def Fits : Piece → Text → Prop
  | nul, after => ∀ c ∈ after.head?, c.isDigit = false
  | continuation terminator, after => terminator = ['\r'] → after.head? ≠ some '\n'
  | _, _ => True

instance (delimiter : Char) (piece : Piece) : Decidable (piece.Formed delimiter) :=
  match piece with
  | plain _ | letter _ | braced _ => inferInstanceAs (Decidable (_ ∧ _))
  | hexPair _ | fourDigits _ => inferInstanceAs (Decidable (_ ∧ _))
  | nul => inferInstanceAs (Decidable True)
  | continuation terminator => inferInstanceAs (Decidable (terminator ∈ lineEnds))

instance (piece : Piece) (after : Text) : Decidable (piece.Fits after) :=
  match piece with
  | nul => Option.decidableForallMem after.head?
  | continuation terminator =>
      inferInstanceAs (Decidable (terminator = ['\r'] → after.head? ≠ some '\n'))
  | plain _ | letter _ | hexPair _ | fourDigits _ | braced _ => inferInstanceAs (Decidable True)

theorem text_pos (piece : Piece) : 0 < piece.text.length := by
  cases piece <;> exact Nat.succ_pos _

theorem point_or_continuation (piece : Piece) :
    (∃ n, piece.points = [n]) ∨ ∃ terminator, piece = continuation terminator := by
  cases piece with
  | continuation terminator => exact .inr ⟨terminator, rfl⟩
  | _ => exact .inl ⟨_, rfl⟩

end Piece

def spell (pieces : List Piece) : Text := pieces.flatMap Piece.text

def pointsOf (pieces : List Piece) : List Nat := pieces.flatMap Piece.points

def unitsOf (pieces : List Piece) : List Nat := (pointsOf pieces).flatMap Text.unitsOfPoint

theorem spell_cons (piece : Piece) (rest : List Piece) :
    spell (piece :: rest) = piece.text ++ spell rest :=
  rfl

theorem unitsOf_cons (piece : Piece) (rest : List Piece) :
    unitsOf (piece :: rest) = piece.points.flatMap Text.unitsOfPoint ++ unitsOf rest := by
  rw [unitsOf, pointsOf, List.flatMap_cons, List.flatMap_append]
  rfl

theorem unitsOf_point {piece : Piece} {n : Nat} (point : piece.points = [n]) (rest : List Piece) :
    unitsOf (piece :: rest) = Text.unitsOfPoint n ++ unitsOf rest := by
  rw [unitsOf_cons, point, List.flatMap_singleton]

def IsBody (delimiter : Char) : List Piece → Prop
  | [] => True
  | piece :: rest => piece.Formed delimiter ∧ piece.Fits (spell rest) ∧ IsBody delimiter rest

instance decidableIsBody (delimiter : Char) (pieces : List Piece) :
    Decidable (IsBody delimiter pieces) :=
  match pieces with
  | [] => .isTrue trivial
  | piece :: rest =>
    have := decidableIsBody delimiter rest
    inferInstanceAs (Decidable (piece.Formed delimiter ∧ piece.Fits (spell rest) ∧ _))

end MessageHarvest.Script
