import MessageHarvest.Script.Cursor
import MessageHarvest.Script.Escape

/-!
String literals and the chunks of template literals.

The value of either is a sequence of code units; it is a text only when no surrogate stands alone.
-/

namespace MessageHarvest.Script

inductive StringReading where
  | closed (units : List Nat) (notes : List Report) (after : Cursor)
  | cut (units : List Nat) (notes : List Report) (after : Cursor)
  | failed (report : Report) (notes : List Report) (after : Cursor)
  deriving Repr, DecidableEq

/-- Line breaks after a backslash are dropped from the value. -/
def lineContinuation? (cursor : Cursor) : Option Cursor :=
  match cursor.rest with
  | '\\' :: '\r' :: '\n' :: _ => some (Cursor.advanceBy 3 cursor)
  | '\\' :: c :: _ => if isLineTerminator c then some (Cursor.advanceBy 2 cursor) else none
  | _ => none

/-- The units read so far are held in reverse. Every step reads at least one character. -/
def StringReading.continueFrom (delimiter : Char) :
    (fuel : Nat) → Cursor → List Nat → List Report → StringReading
  | 0, cursor, units, notes => .cut units.reverse notes cursor
  | fuel + 1, cursor, units, notes =>
      match lineContinuation? cursor with
      | some after => continueFrom delimiter fuel after units notes
      | none =>
          match cursor.rest with
          | [] => .cut units.reverse notes cursor
          | '\\' :: rest =>
              match Escape.ofText rest with
              | .units codes after =>
                  continueFrom delimiter fuel ⟨after, cursor.line⟩ (codes.reverse ++ units) notes
              | .legacy after =>
                  continueFrom delimiter fuel ⟨after, cursor.line⟩ units
                    (notes ++ [⟨.legacyOctal, cursor.line⟩])
              | .malformed fault => .failed ⟨fault, cursor.line⟩ notes cursor.advance
          | c :: _ =>
              if c = delimiter then .closed units.reverse notes cursor.advance
              else if c = '\n' || c = '\r' then .cut units.reverse notes cursor
              else continueFrom delimiter fuel cursor.advance (c.toNat :: units) notes

def StringReading.ofCursor (delimiter : Char) (cursor : Cursor) : StringReading :=
  continueFrom delimiter (cursor.rest.length + 1) cursor [] []

/-- The text between two marks of a template literal. `fault` is the first escape in it that cannot
be read: a tag may see such a chunk, but it has no value. -/
structure Chunk where
  value : Option Text
  fault : Option Report
  deriving Repr, DecidableEq

inductive ChunkReading where
  | closed (chunk : Chunk) (after : Cursor)
  | opened (chunk : Chunk) (after : Cursor)
  | unterminated (after : Cursor)
  deriving Repr, DecidableEq

def Chunk.ofUnits (units : List Nat) (fault : Option Report) : Chunk :=
  ⟨match fault with
    | some _ => none
    | none => Text.ofUnits? units.reverse, fault⟩

/-- All line breaks that are a carriage return, with or without a line feed, count as a line feed. -/
def ChunkReading.continueFrom :
    (fuel : Nat) → Cursor → List Nat → Option Report → ChunkReading
  | 0, cursor, _, _ => .unterminated cursor
  | fuel + 1, cursor, units, fault =>
      match lineContinuation? cursor with
      | some after => continueFrom fuel after units fault
      | none =>
          match cursor.rest with
          | [] => .unterminated cursor
          | '\\' :: rest =>
              match Escape.ofText rest with
              | .units codes after =>
                  continueFrom fuel ⟨after, cursor.line⟩ (codes.reverse ++ units) fault
              | .legacy after =>
                  continueFrom fuel ⟨after, cursor.line⟩ units
                    (fault.or (some ⟨.legacyOctal, cursor.line⟩))
              | .malformed reason =>
                  continueFrom fuel (Cursor.advanceBy 2 cursor) units
                    (fault.or (some ⟨reason, cursor.line⟩))
          | '$' :: '\x7b' :: _ => .opened (Chunk.ofUnits units fault) (Cursor.advanceBy 2 cursor)
          | '\r' :: '\n' :: _ =>
              continueFrom fuel (Cursor.advanceBy 2 cursor) (0x0A :: units) fault
          | c :: _ =>
              if c.toNat = 0x60 then .closed (Chunk.ofUnits units fault) cursor.advance
              else
                continueFrom fuel cursor.advance
                  ((if c = '\r' then 0x0A else c.toNat) :: units) fault

def ChunkReading.ofCursor (cursor : Cursor) : ChunkReading :=
  continueFrom (cursor.rest.length + 1) cursor [] none

end MessageHarvest.Script
