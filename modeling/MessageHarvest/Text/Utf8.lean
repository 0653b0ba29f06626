import MessageHarvest.Text.Basic

/-!
UTF-8. Bytes that are no part of a character are decoded as the replacement character U+FFFD, one for
each longest beginning of a character that breaks off.
-/

namespace MessageHarvest

abbrev Bytes := List UInt8

namespace Utf8

def encodeChar (c : Char) : Bytes :=
  let n := c.toNat
  if n < 0x80 then [n.toUInt8]
  else if n < 0x800 then [(0xC0 + n / 0x40).toUInt8, (0x80 + n % 0x40).toUInt8]
  else if n < 0x10000 then
    [(0xE0 + n / 0x1000).toUInt8, (0x80 + n / 0x40 % 0x40).toUInt8, (0x80 + n % 0x40).toUInt8]
  else
    [(0xF0 + n / 0x40000).toUInt8, (0x80 + n / 0x1000 % 0x40).toUInt8,
      (0x80 + n / 0x40 % 0x40).toUInt8, (0x80 + n % 0x40).toUInt8]

def encode (text : Text) : Bytes := text.flatMap encodeChar

def replacement : Char := Char.ofNat 0xFFFD

/-- Between two characters, or inside one: its bits so far, how many bytes are missing, and the bounds
of the next byte. -/
inductive Decoding where
  | between
  | inside (value missing low high : Nat)
  deriving Repr, DecidableEq

def start (byte : Nat) : Text × Decoding :=
  if byte < 0x80 then ([Char.ofNat byte], .between)
  else if 0xC2 ≤ byte ∧ byte < 0xE0 then ([], .inside (byte - 0xC0) 1 0x80 0xBF)
  else if byte = 0xE0 then ([], .inside 0 2 0xA0 0xBF)
  else if byte = 0xED then ([], .inside 0xD 2 0x80 0x9F)
  else if 0xE1 ≤ byte ∧ byte < 0xF0 then ([], .inside (byte - 0xE0) 2 0x80 0xBF)
  else if byte = 0xF0 then ([], .inside 0 3 0x90 0xBF)
  else if byte = 0xF4 then ([], .inside 4 3 0x80 0x8F)
  else if 0xF1 ≤ byte ∧ byte < 0xF4 then ([], .inside (byte - 0xF0) 3 0x80 0xBF)
  else ([replacement], .between)

def step (decoding : Decoding) (byte : Nat) : Text × Decoding :=
  match decoding with
  | .between => start byte
  | .inside value missing low high =>
      if low ≤ byte ∧ byte ≤ high then
        let value := value * 0x40 + (byte - 0x80)
        if missing = 1 then ([Char.ofNat value], .between)
        else ([], .inside value (missing - 1) 0x80 0xBF)
      else
        let (text, decoding) := start byte
        (replacement :: text, decoding)

def decodeFrom : Decoding → Bytes → Text
  | .between, [] => []
  | .inside .., [] => [replacement]
  | decoding, byte :: bytes =>
      match step decoding byte.toNat with
      | (text, decoding) => text ++ decodeFrom decoding bytes

/-- Every sequence of bytes has a text; only valid ones are kept as they are. -/
def decodeLossy (bytes : Bytes) : Text := decodeFrom .between bytes

def decode? (bytes : Bytes) : Option Text :=
  let text := decodeLossy bytes
  if encode text = bytes then some text else none

end Utf8

end MessageHarvest
