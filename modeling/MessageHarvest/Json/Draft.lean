import MessageHarvest.Json.Number

/-!
JSON text read as far as it goes. A draft has the structure of the text up to the first place where
it is not JSON, and knows what is wrong there. What is wanted of the value decides which fault is met
first: one of shape, or that one.
-/

namespace MessageHarvest.Json

/-- `flawed` is a string with a lone surrogate or a number out of range: a fault unless the value is
skipped. `broken` holds the fault for a value that is wanted and for one that is skipped. -/
inductive Draft where
  | scalar (value : Json)
  | flawed (fault : Fault)
  | broken (wanted skipped : Fault)
  | array (items : List Draft) (stop : Option Fault)
  | object (members : List (Option Text × Draft)) (stop : Option Fault)

def skipSpace : Text → Text
  | [] => []
  | c :: rest => if c = ' ' || c = '\n' || c = '\t' || c = '\r' then skipSpace rest else c :: rest

inductive StringReading where
  | closed (value : Option Text) (rest : Text)
  | stopped (wanted skipped : Fault)
  deriving Repr, DecidableEq

def loneSurrogate (rest : Text) : Fault :=
  Fault.atFirst .notJson "lone leading surrogate in hex escape" rest

/-- Is there a surrogate among the units that nothing read later can complete? The units are in
reverse. -/
def hasLoneSurrogate : List Nat → Bool
  | [] => false
  | unit :: units =>
      if Text.isHighSurrogate unit then (Text.ofUnits? units.reverse).isNone
      else (Text.ofUnits? (unit :: units).reverse).isNone

def StringReading.stop (fault : Fault) (units : List Nat) (rest : Text) : StringReading :=
  .stopped (if hasLoneSurrogate units then loneSurrogate rest else fault) fault

/-- Reads on in a string; the units read so far are in reverse. An escape of four digits is cut short
where fewer than four bytes are left. -/
def StringReading.continueFrom (units : List Nat) : Text → StringReading
  | [] => stop (Fault.atFirst .endOfText "EOF while parsing a string" []) units []
  | '"' :: rest => .closed (Text.ofUnits? units.reverse) rest
  | ['\\'] => stop (Fault.atFirst .endOfText "EOF while parsing a string" []) units []
  | '\\' :: 'u' :: a :: b :: c :: d :: rest =>
      match Text.takeHex? 4 0 [a, b, c, d] with
      | some (unit, _) => continueFrom (unit :: units) rest
      | none => stop (Fault.atFirst .notJson "invalid escape" rest) units rest
  | '\\' :: 'u' :: rest =>
      stop (if Fault.byteCount rest < 4 then
          Fault.atFirst .endOfText "EOF while parsing a string" []
        else Fault.atFirst .notJson "invalid escape" rest) units []
  | '\\' :: '"' :: rest => continueFrom (0x22 :: units) rest
  | '\\' :: '\\' :: rest => continueFrom (0x5C :: units) rest
  | '\\' :: '/' :: rest => continueFrom (0x2F :: units) rest
  | '\\' :: 'b' :: rest => continueFrom (0x08 :: units) rest
  | '\\' :: 'f' :: rest => continueFrom (0x0C :: units) rest
  | '\\' :: 'n' :: rest => continueFrom (0x0A :: units) rest
  | '\\' :: 'r' :: rest => continueFrom (0x0D :: units) rest
  | '\\' :: 't' :: rest => continueFrom (0x09 :: units) rest
  | '\\' :: c :: rest => stop (Fault.atFirst .notJson "invalid escape" (c :: rest)) units rest
  | c :: rest =>
      if c.toNat < 0x20 then
        stop (Fault.atFirst .notJson
          "control character (\\u0000-\\u001F) found while parsing a string" (c :: rest)) units rest
      else continueFrom (c.toNat :: units) rest

abbrev DraftReading := Draft × Option Text

def brokenBy (fault : Fault) : DraftReading := (.broken fault fault, none)

def readString (rest : Text) : DraftReading :=
  match StringReading.continueFrom [] rest with
  | .closed (some text) rest => (.scalar (.string text), some rest)
  | .closed none rest => (.flawed (loneSurrogate rest), some rest)
  | .stopped wanted skipped => (.broken wanted skipped, none)

def readNumber (text : Text) : DraftReading :=
  match NumberReading.ofText text with
  | .read number rest =>
      match number.value? with
      | some value => (.scalar value, some rest)
      | none => (.flawed (Fault.atFirst .notJson "number out of range" rest), some rest)
  | .failed fault => brokenBy fault
  | .cut fault => (.broken fault (Fault.atFirst .notJson "invalid number" []), none)

def readWord (value : Json) : Text → Text → DraftReading
  | [], rest => (.scalar value, some rest)
  | _ :: _, [] => brokenBy (Fault.atFirst .endOfText "EOF while parsing a value" [])
  | c :: word, d :: rest =>
      if c = d then readWord value word rest
      else brokenBy (Fault.atFirst .notJson "expected ident" (d :: rest))

inductive KeyReading where
  | key (name : Option Text) (rest : Text)
  | stopped (fault : Fault)

def readKey (rest : Text) : KeyReading :=
  match StringReading.continueFrom [] rest with
  | .closed name rest => .key name rest
  | .stopped wanted _ => .stopped wanted

mutual

def readDraft : (fuel : Nat) → Text → DraftReading
  | 0, _ => brokenBy (Fault.atFirst .notJson "recursion limit exceeded" [])
  | fuel + 1, text =>
      match skipSpace text with
      | [] => brokenBy (Fault.atFirst .endOfText "EOF while parsing a value" [])
      | '"' :: rest => readString rest
      | '[' :: rest =>
          match readItems fuel true rest with
          | (items, stop, after) => (.array items stop, after)
      | '\x7b' :: rest =>
          match readMembers fuel true rest with
          | (members, stop, after) => (.object members stop, after)
      | 't' :: rest => readWord (.bool true) ['r', 'u', 'e'] rest
      | 'f' :: rest => readWord (.bool false) ['a', 'l', 's', 'e'] rest
      | 'n' :: rest => readWord .null ['u', 'l', 'l'] rest
      | c :: rest =>
          if c = '-' || c.isDigit then readNumber (c :: rest)
          else brokenBy (Fault.atFirst .notJson "expected value" (c :: rest))

def readItems : (fuel : Nat) → (first : Bool) → Text → List Draft × Option Fault × Option Text
  | 0, _, _ => ([], some (Fault.atFirst .notJson "recursion limit exceeded" []), none)
  | fuel + 1, first, text =>
      match skipSpace text with
      | [] => ([], some (Fault.atFirst .endOfText "EOF while parsing a list" []), none)
      | ']' :: rest => ([], none, some rest)
      | c :: rest =>
          if first then readItem fuel (c :: rest)
          else if c = ',' then
            match skipSpace rest with
            | ']' :: after =>
                ([], some (Fault.atFirst .notJson "trailing comma" (']' :: after)), none)
            | after => readItem fuel after
          else
            ([], some (Fault.atFirst .notJson "expected \x60,\x60 or \x60]\x60" (c :: rest)), none)

def readItem : (fuel : Nat) → Text → List Draft × Option Fault × Option Text
  | 0, _ => ([], some (Fault.atFirst .notJson "recursion limit exceeded" []), none)
  | fuel + 1, text =>
      match readDraft fuel text with
      | (item, none) => ([item], none, none)
      | (item, some rest) =>
          match readItems fuel false rest with
          | (items, stop, after) => (item :: items, stop, after)

def readMembers : (fuel : Nat) → (first : Bool) → Text →
    List (Option Text × Draft) × Option Fault × Option Text
  | 0, _, _ => ([], some (Fault.atFirst .notJson "recursion limit exceeded" []), none)
  | fuel + 1, first, text =>
      match skipSpace text with
      | [] => ([], some (Fault.atFirst .endOfText "EOF while parsing an object" []), none)
      | '\x7d' :: rest => ([], none, some rest)
      | c :: rest =>
          if first then readMember fuel (c :: rest)
          else if c = ',' then
            match skipSpace rest with
            | [] => ([], some (Fault.atFirst .endOfText "EOF while parsing a value" []), none)
            | '\x7d' :: after =>
                ([], some (Fault.atFirst .notJson "trailing comma" ('\x7d' :: after)), none)
            | after => readMember fuel after
          else
            ([], some (Fault.atFirst .notJson "expected \x60,\x60 or \x60\x7d\x60" (c :: rest)),
              none)

def readMember : (fuel : Nat) → Text → List (Option Text × Draft) × Option Fault × Option Text
  | 0, _ => ([], some (Fault.atFirst .notJson "recursion limit exceeded" []), none)
  | fuel + 1, text =>
      match text with
      | '"' :: rest =>
          match readKey rest with
          | .stopped fault => ([], some fault, none)
          | .key name rest =>
              match skipSpace rest with
              | ':' :: rest =>
                  match readDraft fuel rest with
                  | (value, none) => ([(name, value)], none, none)
                  | (value, some rest) =>
                      match readMembers fuel false rest with
                      | (members, stop, after) => ((name, value) :: members, stop, after)
              | [] => ([(name, (brokenBy
                  (Fault.atFirst .endOfText "EOF while parsing an object" [])).1)], none, none)
              | after => ([(name, (brokenBy
                  (Fault.atFirst .notJson "expected \x60:\x60" after)).1)], none, none)
      | _ => ([], some (Fault.atFirst .notJson "key must be a string" text), none)

end

/-- Every step reads a character or goes on to one that does, so this bound is never met. -/
def Draft.ofText (text : Text) : DraftReading := readDraft (3 * text.length + 3) text

end MessageHarvest.Json
