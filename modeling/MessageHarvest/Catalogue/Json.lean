import MessageHarvest.Catalogue.Basic
import MessageHarvest.Json.Decoder
import MessageHarvest.Json.Printer

/-!
The JSON form of a catalogue. Sources are left out when there are none, and metadata when an entry
has none.
-/

namespace MessageHarvest

open Json (Decoder)

namespace Metadata

def toJson (metadata : Metadata) : Json := .object (
  (if metadata.sources.isEmpty then [] else [("sources".toList, .ofTexts metadata.sources)]) ++
    metadata.extra.entries)

structure Partly where
  sources : Option (List Text) := none
  extra : List (Text × Json) := []

def fields : List (Decoder.Field Partly) := [{
  name := "sources".toList
  read depth draft := do
    let sources ← Decoder.list Decoder.text depth draft
    return fun read => { read with sources := some sources }
  present read := read.sources.isSome
  absent read := .ok read }]

def extraMember : Text → Decoder (Partly → Partly) := fun key depth draft => do
  let value ← Decoder.value depth draft
  return fun read => { read with extra := read.extra ++ [(key, value)] }

def decoder : Decoder Metadata := fun depth draft => do
  let read ← Decoder.openRecord fields extraMember {} depth draft
  return ⟨read.sources.getD [], SortedMap.ofList read.extra⟩

def ofJsonText (text : Text) : Except Json.Fault Metadata := Decoder.decode decoder text

end Metadata

namespace Entry

def toJson (entry : Entry) : Json := .object (
  ("value".toList, .string entry.value) ::
    match entry.metadata with
    | some metadata => [("metadata".toList, metadata.toJson)]
    | none => [])

structure Partly where
  value : Option Text := none
  metadata : Option (Option Metadata) := none

def fields : List (Decoder.Field Partly) := [
  { name := "value".toList
    read depth draft := do
      let value ← Decoder.text depth draft
      return fun read => { read with value := some value }
    present read := read.value.isSome
    absent _ := Decoder.missing "value" },
  { name := "metadata".toList
    read depth draft := do
      let metadata ← Decoder.optional Metadata.decoder depth draft
      return fun read => { read with metadata := some metadata }
    present read := read.metadata.isSome
    absent read := .ok read }]

def decoder : Decoder Entry := fun depth draft => do
  let read ← Decoder.record fields {} depth draft
  return ⟨read.value.getD [], read.metadata.getD none⟩

end Entry

namespace Catalogue

def toJson (catalogue : Catalogue) : Json := .object [
  ("locale".toList, .string catalogue.locale),
  ("domains".toList, .object (catalogue.domains.entries.map fun (domain, messages) =>
    (domain, .object (messages.entries.map fun (key, entry) => (key, entry.toJson)))))]

def toJsonText (catalogue : Catalogue) : Text := catalogue.toJson.pretty

structure Partly where
  locale : Option Text := none
  domains : Option (SortedMap (SortedMap Entry)) := none

def fields : List (Decoder.Field Partly) := [
  { name := "locale".toList
    read depth draft := do
      let locale ← Decoder.text depth draft
      return fun read => { read with locale := some locale }
    present read := read.locale.isSome
    absent _ := Decoder.missing "locale" },
  { name := "domains".toList
    read depth draft := do
      let domains ← Decoder.map (Decoder.map Entry.decoder) depth draft
      return fun read => { read with domains := some domains }
    present read := read.domains.isSome
    absent _ := Decoder.missing "domains" }]

def decoder : Decoder Catalogue := fun depth draft => do
  let read ← Decoder.record fields {} depth draft
  return ⟨read.locale.getD [], read.domains.getD ∅⟩

def ofJsonText (text : Text) : Except Json.Fault Catalogue := Decoder.decode decoder text

end Catalogue

end MessageHarvest
