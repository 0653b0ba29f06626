import MessageHarvest.Text.Hex

/-!
JSON values. A number that is no integer of 64 bits, signed or unsigned, is kept as it was written.
-/

namespace MessageHarvest

inductive Json where
  | null
  | bool (value : Bool)
  | integer (value : Int)
  | decimal (written : Text)
  | string (text : Text)
  | array (items : List Json)
  | object (members : List (Text × Json))

def Json.ofTexts (texts : List Text) : Json := .array (texts.map .string)

end MessageHarvest
