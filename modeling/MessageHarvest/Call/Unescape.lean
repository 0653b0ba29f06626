import MessageHarvest.Text.Hex

/-!
Decoding the body of a quoted literal without a parser. An escape that cannot be read stands for the
character after its backslash.
-/

namespace MessageHarvest.Call

def replacement : Char := Char.ofNat 0xFFFD

def charOfUnit (unit : Nat) : Char :=
  if Text.isScalar unit then Char.ofNat unit else replacement

def hexEscape? (rest : Text) : Option (Char × Text) :=
  (Text.takeHex? 2 0 rest).map fun (unit, after) => (charOfUnit unit, after)

def bracedEscape? (rest : Text) : Option (Char × Text) :=
  match Text.spanHex 0 0 rest with
  | (count, unit, '\x7d' :: after) =>
      if 0 < count ∧ count ≤ 6 ∧ Text.isScalar unit = true then some (Char.ofNat unit, after)
      else none
  | _ => none

def lowSurrogate? : Text → Option (Nat × Text)
  | '\\' :: 'u' :: digits =>
      match Text.takeHex? 4 0 digits with
      | some (low, after) => if Text.isLowSurrogate low then some (low, after) else none
      | none => none
  | _ => none

/-- Four digits. A high surrogate joins with the escape of a low one after it; a surrogate that is
alone becomes the replacement character. -/
def fourDigitEscape? (rest : Text) : Option (Char × Text) :=
  match Text.takeHex? 4 0 rest with
  | none => none
  | some (unit, after) =>
      if Text.isHighSurrogate unit then
        match lowSurrogate? after with
        | some (low, after) => some (Char.ofNat (Text.joinSurrogates unit low), after)
        | none => some (charOfUnit unit, after)
      else some (charOfUnit unit, after)

def unicodeEscape? : Text → Option (Char × Text)
  | '\x7b' :: rest => bracedEscape? rest
  | rest => fourDigitEscape? rest

def orLetter (letter : Char) (rest : Text) : Option (Char × Text) → Text × Text
  | some (c, after) => ([c], after)
  | none => ([letter], rest)

def decodeEscape : Text → Text × Text
  | [] => (['\\'], [])
  | 'n' :: rest => (['\n'], rest)
  | 'r' :: rest => (['\r'], rest)
  | 't' :: rest => (['\t'], rest)
  | 'b' :: rest => ([Char.ofNat 0x08], rest)
  | 'f' :: rest => ([Char.ofNat 0x0C], rest)
  | 'v' :: rest => ([Char.ofNat 0x0B], rest)
  | 'x' :: rest => orLetter 'x' rest (hexEscape? rest)
  | 'u' :: rest => orLetter 'u' rest (unicodeEscape? rest)
  | '\r' :: '\n' :: rest => ([], rest)
  | c :: rest =>
      if c = '0' then
        if (rest.head?.map Char.isDigit).getD false then (['0'], rest) else ([Char.ofNat 0], rest)
      else if c = '\r' || c = '\n' || c.toNat = 0x2028 || c.toNat = 0x2029 then ([], rest)
      else ([c], rest)

/-- Each step reads at least one character. -/
def unescapeFrom : (fuel : Nat) → Text → Text
  | 0, rest => rest
  | _ + 1, [] => []
  | fuel + 1, '\\' :: rest =>
      match decodeEscape rest with
      | (decoded, after) => decoded ++ unescapeFrom fuel after
  | fuel + 1, c :: rest => c :: unescapeFrom fuel rest

def unescape (body : Text) : Text := unescapeFrom body.length body

end MessageHarvest.Call
