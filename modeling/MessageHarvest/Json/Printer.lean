import MessageHarvest.Json.Value

/-!
JSON text with one member or item a line, each level indented by two blanks. Only quotes, backslashes
and control characters are escaped.
-/

namespace MessageHarvest.Json

def hexDigit (n : Nat) : Char := Nat.digitChar n

def escape (c : Char) : Text :=
  if c = '"' then ['\\', '"']
  else if c = '\\' then ['\\', '\\']
  else if c = '\n' then ['\\', 'n']
  else if c = '\r' then ['\\', 'r']
  else if c = '\t' then ['\\', 't']
  else if c.toNat = 8 then ['\\', 'b']
  else if c.toNat = 12 then ['\\', 'f']
  else if c.toNat < 0x20 then
    ['\\', 'u', '0', '0', hexDigit (c.toNat / 16), hexDigit (c.toNat % 16)]
  else [c]

def printString (text : Text) : Text := '"' :: text.flatMap escape ++ ['"']

def printInteger : Int → Text
  | .ofNat n => Text.ofNat n
  | .negSucc n => '-' :: Text.ofNat (n + 1)

def indent (depth : Nat) : Text := List.replicate (2 * depth) ' '

/-- A list in brackets, one printed item a line; `depth` is the indentation of the list itself. -/
def printBlock (opening closing : Char) (depth : Nat) (printed : List Text) : Text :=
  match printed with
  | [] => [opening, closing]
  | _ =>
      opening :: '\n' ::
        Text.join [',', '\n'] (printed.map (indent (depth + 1) ++ ·)) ++
        '\n' :: indent depth ++ [closing]

mutual

def prettyAt (depth : Nat) : Json → Text
  | .null => "null".toList
  | .bool true => "true".toList
  | .bool false => "false".toList
  | .integer value => printInteger value
  | .decimal written => written
  | .string text => printString text
  | .array items => printBlock '[' ']' depth (prettyItems (depth + 1) items)
  | .object members => printBlock '\x7b' '\x7d' depth (prettyMembers (depth + 1) members)

def prettyItems (depth : Nat) : List Json → List Text
  | [] => []
  | item :: items => prettyAt depth item :: prettyItems depth items

def prettyMembers (depth : Nat) : List (Text × Json) → List Text
  | [] => []
  | (name, value) :: members =>
      (printString name ++ ':' :: ' ' :: prettyAt depth value) :: prettyMembers depth members

end

def pretty (value : Json) : Text := prettyAt 0 value

end MessageHarvest.Json
