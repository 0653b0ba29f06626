import MessageHarvest.Json.Value
import MessageHarvest.Message.Location
import MessageHarvest.Text.SortedMap

namespace MessageHarvest

/-- `sources` lists the places in the order of recording; `extra` holds whatever else a catalogue
says of the message. -/
structure Metadata where
  sources : List Text
  extra : SortedMap Json

namespace Metadata

def empty : Metadata := ⟨[], ∅⟩

instance : Inhabited Metadata := ⟨empty⟩

def addSource (metadata : Metadata) (source : Text) : Metadata :=
  { metadata with sources := metadata.sources ++ [source] }

end Metadata

structure Entry where
  value : Text
  metadata : Option Metadata

namespace Entry

def blank : Entry := ⟨[], none⟩

instance : Inhabited Entry := ⟨blank⟩

end Entry

structure Catalogue where
  locale : Text
  domains : SortedMap (SortedMap Entry)

namespace Catalogue

def empty (locale : Text) : Catalogue := ⟨locale, ∅⟩

instance : Inhabited Catalogue := ⟨empty []⟩

def get? (catalogue : Catalogue) (key domain : Text) : Option Entry :=
  (catalogue.domains.get? domain).bind (·.get? key)

/-- An entry that is not there yet is changed from a blank one. -/
def modify (catalogue : Catalogue) (key domain : Text) (change : Entry → Entry) : Catalogue :=
  { catalogue with
    domains := catalogue.domains.alter domain fun messages =>
      (messages.getD ∅).alter key fun entry => change (entry.getD .blank) }

def set (catalogue : Catalogue) (key value domain : Text) : Catalogue :=
  catalogue.modify key domain fun entry => { entry with value := value }

def setMetadata (catalogue : Catalogue) (key : Text) (metadata : Metadata) (domain : Text) :
    Catalogue :=
  catalogue.modify key domain fun entry => { entry with metadata := some metadata }

def has (catalogue : Catalogue) (key domain : Text) : Bool :=
  (catalogue.get? key domain).isSome

def metadata? (catalogue : Catalogue) (key domain : Text) : Option Metadata :=
  (catalogue.get? key domain).bind (·.metadata)

def all (catalogue : Catalogue) (domain : Text) : List (Text × Text) :=
  match catalogue.domains.get? domain with
  | some messages => messages.entries.map fun (key, entry) => (key, entry.value)
  | none => []

def domainNames (catalogue : Catalogue) : List Text :=
  (catalogue.domains.entries.filter (fun (_, messages) => !messages.isEmpty)).map (·.1)

def size (catalogue : Catalogue) : Nat :=
  catalogue.domains.entries.foldr (fun entry count => entry.2.size + count) 0

def isEmpty (catalogue : Catalogue) : Bool := catalogue.size = 0

theorem get?_modify (catalogue : Catalogue) (key domain : Text) (change : Entry → Entry)
    (otherKey otherDomain : Text) :
    (catalogue.modify key domain change).get? otherKey otherDomain =
      if otherDomain = domain ∧ otherKey = key then
        some (change ((catalogue.get? key domain).getD .blank))
      else catalogue.get? otherKey otherDomain := by
  by_cases hd : otherDomain = domain
  · subst hd
    cases held : catalogue.domains.get? otherDomain with
    | none =>
      by_cases hk : otherKey = key
      · simp [modify, get?, SortedMap.get?_alter, held, hk]
        rfl
      · simp [modify, get?, SortedMap.get?_alter, held, hk]
        rfl
    | some messages =>
      by_cases hk : otherKey = key
      · simp [modify, get?, SortedMap.get?_alter, held, hk]
      · simp [modify, get?, SortedMap.get?_alter, held, hk]
  · simp [modify, get?, SortedMap.get?_alter, hd]

end Catalogue

end MessageHarvest
