import MessageHarvest.Json.Draft
import MessageHarvest.Proofs.Text.CodeUnit

/-!
The grammar of JSON text, with blanks wherever they may stand and every spelling of strings and
numbers.
-/

namespace MessageHarvest.Json

def isBlank (c : Char) : Bool := c = ' ' || c = '\n' || c = '\t' || c = '\r'

def AreBlanks (text : Text) : Prop := ∀ c ∈ text, isBlank c = true

instance (text : Text) : Decidable (AreBlanks text) :=
  List.decidableBAll (fun c => isBlank c = true) text

def shortEscapes : List (Char × Nat) := [
  ('"', 0x22), ('\\', 0x5C), ('/', 0x2F), ('b', 0x08), ('f', 0x0C), ('n', 0x0A), ('r', 0x0D),
  ('t', 0x09)]

/-- What stands between the quotes of a string, and the code points and units it spells. -/
inductive Spells : Text → List Nat → Prop
  | nothing : Spells [] []
  | plain {c : Char} {body : Text} {points : List Nat} (printable : 0x20 ≤ c.toNat)
      (quote : c ≠ '"') (backslash : c ≠ '\\') (others : Spells body points) :
      Spells (c :: body) (c.toNat :: points)
  | short {c : Char} {unit : Nat} {body : Text} {points : List Nat}
      (escape : (c, unit) ∈ shortEscapes) (others : Spells body points) :
      Spells ('\\' :: c :: body) (unit :: points)
  | unit {a b c d : Char} {unit : Nat} {body : Text} {points : List Nat}
      (digits : Text.takeHex? 4 0 [a, b, c, d] = some (unit, [])) (others : Spells body points) :
      Spells ('\\' :: 'u' :: a :: b :: c :: d :: body) (unit :: points)

def Denotes (body text : Text) : Prop :=
  ∃ points, Spells body points ∧ points.flatMap Text.unitsOfPoint = Text.utf16 text

theorem Denotes.plain {text : Text}
    (all : ∀ c ∈ text, 0x20 ≤ c.toNat ∧ c ≠ '"' ∧ c ≠ '\\') : Denotes text text := by
  refine ⟨text.map Char.toNat, ?_, List.flatMap_map ..⟩
  induction text with
  | nil => exact .nothing
  | cons c text ih =>
    obtain ⟨⟨printable, quote, backslash⟩, others⟩ := List.forall_mem_cons.1 all
    exact .plain printable quote backslash (ih others)

def AreDigits (text : Text) : Prop := text ≠ [] ∧ ∀ c ∈ text, c.isDigit = true

instance (text : Text) : Decidable (AreDigits text) :=
  have : Decidable (∀ c ∈ text, c.isDigit = true) :=
    List.decidableBAll (fun c => c.isDigit = true) text
  inferInstanceAs (Decidable (_ ∧ _))

def IsFraction (text : Text) : Prop := text = [] ∨ ∃ digits, text = '.' :: digits ∧ AreDigits digits

def IsExponent (text : Text) : Prop :=
  text = [] ∨ ∃ mark sign digits, text = mark :: (sign ++ digits) ∧ (mark = 'e' ∨ mark = 'E') ∧
    (sign = [] ∨ sign = ['+'] ∨ sign = ['-']) ∧ AreDigits digits

/-- A zero in front stands alone. -/
inductive IsNumber : Text → Prop
  | mk {sign whole fraction exponent : Text} (signed : sign = [] ∨ sign = ['-'])
      (digits : AreDigits whole) (alone : whole.head? = some '0' → whole = ['0'])
      (fractional : IsFraction fraction) (exponential : IsExponent exponent) :
      IsNumber (sign ++ (whole ++ (fraction ++ exponent)))

structure Padded where
  before : Text
  inner : Text
  after : Text

def Padded.text (padded : Padded) : Text := padded.before ++ (padded.inner ++ padded.after)

def Padded.IsBlank (padded : Padded) : Prop := AreBlanks padded.before ∧ AreBlanks padded.after

instance (padded : Padded) : Decidable padded.IsBlank := inferInstanceAs (Decidable (_ ∧ _))

def quoted (body : Text) : Text := '"' :: (body ++ ['"'])

/-- `key` is what stands between the quotes. -/
structure Member where
  key : Padded
  value : Padded

def Member.text (member : Member) : Text :=
  (Padded.mk member.key.before (quoted member.key.inner) member.key.after).text ++
    ':' :: member.value.text

def Member.IsBlank (member : Member) : Prop := member.key.IsBlank ∧ member.value.IsBlank

instance (member : Member) : Decidable member.IsBlank := inferInstanceAs (Decidable (_ ∧ _))

/-- What stands between two brackets; the blanks are those of an empty list. -/
def listing (blanks : Text) : List Text → Text
  | [] => blanks
  | items => Text.join [','] items

def arrayText (blanks : Text) (items : List Padded) : Text :=
  '[' :: (listing blanks (items.map Padded.text) ++ [']'])

def objectText (blanks : Text) (members : List Member) : Text :=
  '\x7b' :: (listing blanks (members.map Member.text) ++ ['\x7d'])

inductive IsValue : Text → Prop
  | null : IsValue "null".toList
  | true : IsValue "true".toList
  | false : IsValue "false".toList
  | number {text : Text} (number : IsNumber text) : IsValue text
  | string {body : Text} {points : List Nat} (spelled : Spells body points) : IsValue (quoted body)
  | array {blanks : Text} {items : List Padded} (blank : AreBlanks blanks)
      (padded : ∀ item ∈ items, item.IsBlank) (values : ∀ item ∈ items, IsValue item.inner) :
      IsValue (arrayText blanks items)
  | object {blanks : Text} {members : List Member} (blank : AreBlanks blanks)
      (padded : ∀ member ∈ members, member.IsBlank)
      (keys : ∀ member ∈ members, ∃ points, Spells member.key.inner points)
      (values : ∀ member ∈ members, IsValue member.value.inner) :
      IsValue (objectText blanks members)

end MessageHarvest.Json
