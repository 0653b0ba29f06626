import MessageHarvest.Json.Fault
import MessageHarvest.Json.Value

namespace MessageHarvest.Json

structure Written where
  negative : Bool
  whole : Text
  fraction : Option Text
  exponent : Option (Char × Text)
  deriving Repr, DecidableEq

/-- A number at the front of a text. An early end of the text is an error of its own, except where
the value is skipped. -/
inductive NumberReading where
  | read (number : Written) (rest : Text)
  | failed (fault : Fault)
  | cut (fault : Fault)
  deriving Repr, DecidableEq

def digitsOf (text : Text) : Text := text.takeWhile Char.isDigit

def afterDigits (text : Text) : Text := text.dropWhile Char.isDigit

def natOfDigits (digits : Text) : Nat := digits.foldl (fun n c => n * 10 + (c.toNat - 48)) 0

namespace NumberReading

def refuse (rest : Text) : NumberReading :=
  match rest with
  | [] => .cut (Fault.atFirst .endOfText "EOF while parsing a value" [])
  | _ => .failed (Fault.atFirst .notJson "invalid number" rest)

def exponentDigits (number : Written) (sign : Char) (rest : Text) : NumberReading :=
  match digitsOf rest with
  | [] => refuse rest
  | digits => .read { number with exponent := some (sign, digits) } (afterDigits rest)

def exponent (number : Written) (rest : Text) : NumberReading :=
  match rest with
  | c :: after =>
      if c = 'e' || c = 'E' then
        match after with
        | '+' :: after => exponentDigits number '+' after
        | '-' :: after => exponentDigits number '-' after
        | after => exponentDigits number '+' after
      else .read number rest
  | [] => .read number []

def fraction (number : Written) (rest : Text) : NumberReading :=
  match rest with
  | '.' :: after =>
      match digitsOf after with
      | [] => refuse after
      | digits => exponent { number with fraction := some digits } (afterDigits after)
  | _ => exponent number rest

def whole (negative : Bool) (rest : Text) : NumberReading :=
  match digitsOf rest with
  | [] => refuse rest
  | '0' :: next :: more =>
      .failed (Fault.atFirst .notJson "invalid number" (next :: more ++ afterDigits rest))
  | digits => fraction ⟨negative, digits, none, none⟩ (afterDigits rest)

def ofText : Text → NumberReading
  | '-' :: rest => whole true rest
  | rest => whole false rest

end NumberReading

namespace Written

def spelling (number : Written) : Text :=
  (if number.negative then ['-'] else []) ++ number.whole ++
    (match number.fraction with
      | some digits => '.' :: digits
      | none => []) ++
    (match number.exponent with
      | some (sign, digits) => 'e' :: sign :: digits
      | none => [])

def overflows (number : Written) : Bool :=
  let fraction := number.fraction.getD []
  let digits := number.whole ++ fraction
  let mantissa := natOfDigits digits
  let scale : Int := (match number.exponent with
    | some ('-', exponent) => -(natOfDigits exponent : Int)
    | some (_, exponent) => natOfDigits exponent
    | none => 0) - fraction.length
  if mantissa = 0 then false
  else
    let magnitude : Int := (Nat.toDigits 10 mantissa).length + scale
    if magnitude > 310 then true
    else if magnitude < 300 then false
    else
      let bound := Nat.pow 2 1024 - Nat.pow 2 970
      if scale ≥ 0 then bound ≤ mantissa * Nat.pow 10 scale.toNat
      else bound * Nat.pow 10 (-scale).toNat ≤ mantissa

def value? (number : Written) : Option Json :=
  match number.fraction, number.exponent with
  | none, none =>
      let n := natOfDigits number.whole
      if number.negative then
        if 0 < n ∧ n ≤ 0x8000000000000000 then some (.integer (-(n : Int)))
        else if n = 0 then some (.decimal "-0.0".toList)
        else if number.overflows then none
        else some (.decimal number.spelling)
      else if n < 0x10000000000000000 then some (.integer n)
      else if number.overflows then none
      else some (.decimal number.spelling)
  | _, _ => if number.overflows then none else some (.decimal number.spelling)

end Written

end MessageHarvest.Json
