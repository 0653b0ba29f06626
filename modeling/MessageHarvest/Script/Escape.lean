import MessageHarvest.Text.Hex
import MessageHarvest.Script.Fault

namespace MessageHarvest.Script

inductive Escape where
  | units (codes : List Nat) (rest : Text)
  | legacy (rest : Text)
  | malformed (fault : Fault)
  deriving Repr, DecidableEq

namespace Escape

def hexPair (rest : Text) : Escape :=
  match Text.takeHex? 2 0 rest with
  | some (code, rest) => .units [code] rest
  | none => .malformed (.badEscape "2 hex characters".toList)

def braced (rest : Text) : Escape :=
  match Text.spanHex 0 0 rest with
  | (count, code, after) =>
      if count = 0 then .malformed (.badEscape "1-6 hex characters".toList)
      else if code > 0x10FFFF then
        .malformed (.badEscape "1-6 hex characters in the range 0 to 10FFFF.".toList)
      else match after with
        | '\x7d' :: after => .units [code] after
        | _ => .malformed (.badEscape "1-6 hex characters".toList)

/-- Four digits. After a high surrogate a further escape of this form must follow its `u`. -/
def fourDigits (rest : Text) : Escape :=
  match Text.takeHex? 4 0 rest with
  | none => .malformed (.badEscape "4 hex characters".toList)
  | some (code, after) =>
      if Text.isHighSurrogate code then
        match after with
        | '\\' :: 'u' :: digits =>
            match Text.takeHex? 4 0 digits with
            | none => .malformed (.badEscape "4 hex characters".toList)
            | some (second, after) => .units [code, second] after
        | _ => .units [code] after
      else .units [code] after

def unicode : Text → Escape
  | '\x7b' :: rest => braced rest
  | rest => fourDigits rest

def isOctalDigit (c : Char) : Bool := '0' ≤ c && c ≤ '7'

/-- The escape that follows a backslash; line terminators are not for this function. -/
def ofText : Text → Escape
  | [] => .malformed .invalidStringEscape
  | 'n' :: rest => .units [0x0A] rest
  | 'r' :: rest => .units [0x0D] rest
  | 't' :: rest => .units [0x09] rest
  | 'b' :: rest => .units [0x08] rest
  | 'f' :: rest => .units [0x0C] rest
  | 'v' :: rest => .units [0x0B] rest
  | 'x' :: rest => hexPair rest
  | 'u' :: rest => unicode rest
  | '0' :: rest =>
      match rest with
      | next :: _ => if isOctalDigit next then .legacy rest else .units [0] rest
      | [] => .units [0] []
  | c :: rest => if isOctalDigit c then .legacy rest else .units [c.toNat] rest

end Escape

end MessageHarvest.Script
