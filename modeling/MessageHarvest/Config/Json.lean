import MessageHarvest.Config.Basic
import MessageHarvest.Json.Decoder
import MessageHarvest.Json.Printer

/-!
The JSON form of a configuration. Fields that are left out have their standard values, and members
that are no fields are skipped.
-/

namespace MessageHarvest.Config

open Json (Decoder)

structure Partly where
  translatorObjects : Option (List Text) := none
  translatorMethods : Option (List Text) := none
  defaultDomain : Option Text := none
  valuePrefix : Option Text := none
  extensions : Option (List Text) := none
  exclude : Option (List Text) := none
  deriving Repr, DecidableEq

namespace Partly

def complete (read : Partly) : Config where
  translatorObjects := read.translatorObjects.getD standard.translatorObjects
  translatorMethods := read.translatorMethods.getD standard.translatorMethods
  defaultDomain := read.defaultDomain.getD standard.defaultDomain
  valuePrefix := read.valuePrefix.getD standard.valuePrefix
  extensions := read.extensions.getD standard.extensions
  exclude := read.exclude.getD standard.exclude

end Partly

def field {α : Type} (name : String) (item : Decoder α) (get : Partly → Option α)
    (set : α → Partly → Partly) : Decoder.Field Partly where
  name := name.toList
  read depth draft := set <$> item depth draft
  present read := (get read).isSome
  absent read := .ok read

def fields : List (Decoder.Field Partly) := [
  field "translatorObjects" (Decoder.list Decoder.text) (·.translatorObjects)
    (fun value read => { read with translatorObjects := some value }),
  field "translatorMethods" (Decoder.list Decoder.text) (·.translatorMethods)
    (fun value read => { read with translatorMethods := some value }),
  field "defaultDomain" Decoder.text (·.defaultDomain)
    (fun value read => { read with defaultDomain := some value }),
  field "prefix" Decoder.text (·.valuePrefix)
    (fun value read => { read with valuePrefix := some value }),
  field "extensions" (Decoder.list Decoder.text) (·.extensions)
    (fun value read => { read with extensions := some value }),
  field "exclude" (Decoder.list Decoder.text) (·.exclude)
    (fun value read => { read with exclude := some value })]

def decoder : Decoder Config := fun depth draft =>
  Partly.complete <$> Decoder.record fields {} depth draft

def ofJsonText (text : Text) : Except Json.Fault Config := Decoder.decode decoder text

def toJson (config : Config) : Json := .object [
  ("translatorObjects".toList, .ofTexts config.translatorObjects),
  ("translatorMethods".toList, .ofTexts config.translatorMethods),
  ("defaultDomain".toList, .string config.defaultDomain),
  ("prefix".toList, .string config.valuePrefix),
  ("extensions".toList, .ofTexts config.extensions),
  ("exclude".toList, .ofTexts config.exclude)]

def toJsonText (config : Config) : Text := config.toJson.pretty

end MessageHarvest.Config
