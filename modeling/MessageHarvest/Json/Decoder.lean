import MessageHarvest.Json.Draft
import MessageHarvest.Text.SortedMap

/-!
Values of a wanted shape read from JSON text. The text is judged from left to right, so the first
fault is reported, of shape or of form.

Records are read from objects, whose unknown members are skipped, and from arrays that list their
fields in order. A known member may not occur twice.
-/

namespace MessageHarvest.Json

/-- Reads a draft that may be nested `depth` levels deeper, less one. -/
abbrev Decoder (α : Type) : Type := (depth : Nat) → Draft → Except Fault α

namespace Decoder

def mismatch {α : Type} (wanted : String) : Draft → Except Fault α
  | .broken fault _ => .error fault
  | .flawed fault => .error fault
  | _ => .error (Fault.wrongShape ("invalid type, expected " ++ wanted))

def enter {α : Type} (depth : Nat) (next : Nat → Except Fault α) : Except Fault α :=
  match depth with
  | 0 | 1 => .error ⟨.notJson, "recursion limit exceeded".toList, 0⟩
  | depth + 1 => next depth

def stopped {α : Type} (stop : Option Fault) (value : α) : Except Fault α :=
  match stop with
  | some fault => .error fault
  | none => .ok value

mutual

/-- A value that is not looked at need only be well formed. -/
def skip : Draft → Except Fault Unit
  | .scalar _ => .ok ()
  | .flawed _ => .ok ()
  | .broken _ fault => .error fault
  | .array items stop => do
      skipItems items
      stopped stop ()
  | .object members stop => do
      skipMembers members
      stopped stop ()

def skipItems : List Draft → Except Fault Unit
  | [] => .ok ()
  | item :: items => do
      skip item
      skipItems items

def skipMembers : List (Option Text × Draft) → Except Fault Unit
  | [] => .ok ()
  | (_, value) :: members => do
      skip value
      skipMembers members

end

def name (key : Option Text) : Except Fault Text :=
  match key with
  | some name => .ok name
  | none => .error (loneSurrogate [])

mutual

/-- Any value. The members of objects come in the order of their keys, the last of each key. -/
def value : (depth : Nat) → Draft → Except Fault Json
  | _, .scalar value => .ok value
  | _, .flawed fault => .error fault
  | _, .broken fault _ => .error fault
  | depth, .array items stop => enter depth fun depth => do
      let items ← values depth items
      stopped stop (.array items)
  | depth, .object members stop => enter depth fun depth => do
      let members ← namedValues depth members
      stopped stop (.object (SortedMap.ofList members).entries)

def values : (depth : Nat) → List Draft → Except Fault (List Json)
  | _, [] => .ok []
  | depth, item :: items => do
      let item ← value depth item
      return item :: (← values depth items)

def namedValues : (depth : Nat) → List (Option Text × Draft) → Except Fault (List (Text × Json))
  | _, [] => .ok []
  | depth, (key, item) :: members => do
      let key ← name key
      let item ← value depth item
      return (key, item) :: (← namedValues depth members)

end

def text : Decoder Text
  | _, .scalar (.string text) => .ok text
  | _, draft => mismatch "a string" draft

def list {α : Type} (item : Decoder α) : Decoder (List α)
  | depth, .array items stop => enter depth fun depth => do
      let items ← items.mapM (item depth)
      stopped stop items
  | _, draft => mismatch "a sequence" draft

/-- Of several members with one key the last stays. -/
def map {α : Type} (item : Decoder α) : Decoder (SortedMap α)
  | depth, .object members stop => enter depth fun depth => do
      let members ← members.mapM fun (key, draft) => do
        let key ← name key
        return (key, ← item depth draft)
      stopped stop (SortedMap.ofList members)
  | _, draft => mismatch "a map" draft

def optional {α : Type} (item : Decoder α) : Decoder (Option α)
  | _, .scalar .null => .ok none
  | depth, draft => some <$> item depth draft

structure Field (σ : Type) where
  name : Text
  read : Decoder (σ → σ)
  present : σ → Bool
  absent : σ → Except Fault σ

def missing {α : Type} (name : String) : Except Fault α :=
  .error (Fault.wrongShape ("missing field \x60" ++ name ++ "\x60"))

def complete {σ : Type} : List (Field σ) → σ → Except Fault σ
  | [], record => .ok record
  | field :: fields, record => do
      if field.present record then complete fields record
      else complete fields (← field.absent record)

def member {σ : Type} (fields : List (Field σ)) (other : Text → Decoder (σ → σ)) (depth : Nat)
    (record : σ) (key : Text) (draft : Draft) : Except Fault σ :=
  match fields.find? (fun field => field.name = key) with
  | some field =>
      if field.present record then
        .error (Fault.wrongShape ("duplicate field \x60" ++ String.ofList key ++ "\x60"))
      else do
        let change ← field.read depth draft
        return change record
  | none => do
      let change ← other key depth draft
      return change record

def members {σ : Type} (fields : List (Field σ)) (other : Text → Decoder (σ → σ)) (depth : Nat) :
    σ → List (Option Text × Draft) → Except Fault σ
  | record, [] => .ok record
  | record, (key, draft) :: rest => do
      let key ← name key
      let record ← member fields other depth record key draft
      members fields other depth record rest

def skipped {σ : Type} : Text → Decoder (σ → σ) := fun _ _ draft => do
  skip draft
  return id

def listed {σ : Type} (depth : Nat) (stop : Option Fault) :
    List (Field σ) → List Draft → σ → Except Fault σ
  | [], [], record => stopped stop record
  | [], _ :: _, _ => .error ⟨.notJson, "trailing characters".toList, 0⟩
  | field :: fields, [], record => do
      let record ← stopped stop record
      complete (field :: fields) record
  | field :: fields, draft :: drafts, record => do
      let change ← field.read depth draft
      listed depth stop fields drafts (change record)

def record {σ : Type} (fields : List (Field σ)) (initial : σ) : Decoder σ
  | depth, .object entries stop => enter depth fun depth => do
      let record ← members fields skipped depth initial entries
      let record ← stopped stop record
      complete fields record
  | depth, .array items stop => enter depth fun depth => listed depth stop fields items initial
  | _, draft => mismatch "a record" draft

def openRecord {σ : Type} (fields : List (Field σ)) (other : Text → Decoder (σ → σ)) (initial : σ) :
    Decoder σ
  | depth, .object entries stop => enter depth fun depth => do
      let record ← members fields other depth initial entries
      let record ← stopped stop record
      complete fields record
  | _, draft => mismatch "a map" draft

/-- Values may be nested 127 levels deep. -/
def depthLimit : Nat := 128

def decode {α : Type} (decoder : Decoder α) (text : Text) : Except Fault α := do
  let (draft, rest) := Draft.ofText text
  let value ← decoder depthLimit draft
  match rest with
  | none => return value
  | some rest =>
      match skipSpace rest with
      | [] => return value
      | after => .error (Fault.atFirst .notJson "trailing characters" after)

end Decoder

def read (text : Text) : Except Fault Json := Decoder.decode Decoder.value text

end MessageHarvest.Json
