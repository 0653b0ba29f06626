import MessageHarvest.Text.Hex
import MessageHarvest.Text.Identifier
import MessageHarvest.Script.Fault

namespace MessageHarvest.Script

/-- A run of digits. Separators are dropped; `misplaced` tells of one that no digit follows. -/
structure Digits where
  digits : List Nat
  misplaced : Bool
  rest : Text
  deriving Repr, DecidableEq

namespace Digits

def digit? (radix : Nat) (c : Char) : Option Nat :=
  match Text.hexDigit? c with
  | some d => if d < radix then some d else none
  | none => none

def digitFirst (radix : Nat) : Text → Bool
  | [] => false
  | c :: _ => (digit? radix c).isSome

def span (radix : Nat) : Text → Digits
  | [] => ⟨[], false, []⟩
  | c :: rest =>
      match digit? radix c with
      | some d =>
          let tail := span radix rest
          { tail with digits := d :: tail.digits }
      | none =>
          if c = '_' then
            let tail := span radix rest
            { tail with misplaced := tail.misplaced || !digitFirst radix rest }
          else ⟨[], false, c :: rest⟩

def notes (run : Digits) : List Fault := if run.misplaced then [.misplacedSeparator] else []

end Digits

structure Numeral where
  outcome : Except Fault Bool
  notes : List Fault
  rest : Text

namespace Numeral

def failed (fault : Fault) (notes : List Fault) (rest : Text) : Numeral := ⟨.error fault, notes, rest⟩

/-- No identifier may begin where a number ends. -/
def close (notes : List Fault) (rest : Text) : Numeral :=
  match rest with
  | c :: _ =>
      if Text.startsIdentifier c then failed .identifierAfterNumber notes rest
      else ⟨.ok false, notes, rest⟩
  | [] => ⟨.ok false, notes, rest⟩

def exponentDigits (notes : List Fault) (rest : Text) : Numeral :=
  let run := Digits.span 10 rest
  if run.digits.isEmpty then failed (.digitExpected 10) (notes ++ run.notes) run.rest
  else close (notes ++ run.notes) run.rest

def exponent (notes : List Fault) : Text → Numeral
  | c :: rest =>
      if c = 'e' || c = 'E' then
        match rest with
        | [] => failed .exponentWithoutDigits notes []
        | sign :: after =>
            if sign = '+' || sign = '-' then exponentDigits notes after
            else exponentDigits notes rest
      else close notes (c :: rest)
  | [] => close notes []

def fraction (notes : List Fault) : Text → Numeral
  | '.' :: rest =>
      let run := Digits.span 10 rest
      exponent (notes ++ run.notes) run.rest
  | rest => exponent notes rest

def withRadix (radix : Nat) (rest : Text) : Numeral :=
  let run := Digits.span radix rest
  if run.digits.isEmpty then failed (.digitExpected radix) run.notes run.rest
  else match run.rest with
    | 'n' :: after => ⟨.ok true, run.notes, after⟩
    | after => close run.notes after

/-- A first zero that is not alone makes a legacy octal number, or a legacy decimal one when a digit
above seven occurs. -/
def decimal (source : Text) : Numeral :=
  let run := Digits.span 10 source
  match run.rest with
  | 'n' :: after => ⟨.ok true, run.notes, after⟩
  | after =>
      match run.digits with
      | 0 :: more =>
          if more.all (· = 0) then
            if run.rest.length + 1 = source.length then fraction run.notes after
            else close (run.notes ++ [.legacyOctal]) after
          else if more.any (· > 7) then fraction (run.notes ++ [.legacyDecimal]) after
          else close (run.notes ++ [.legacyOctal]) after
      | _ => fraction run.notes after

def ofText (source : Text) : Numeral :=
  match source with
  | '0' :: mark :: rest =>
      if mark = 'x' || mark = 'X' then withRadix 16 rest
      else if mark = 'o' || mark = 'O' then withRadix 8 rest
      else if mark = 'b' || mark = 'B' then withRadix 2 rest
      else decimal source
  | '.' :: _ => fraction [] source
  | _ => decimal source

end Numeral

end MessageHarvest.Script
