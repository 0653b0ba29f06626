import MessageHarvest.Proofs.Command.Effects
import MessageHarvest.Proofs.Json.Decoding
import MessageHarvest.Proofs.Text.Utf8
import Mathlib.Data.List.ReduceOption

namespace MessageHarvest.Config

open Json (Decoder Draft Padded Member Reads AreBlanks Denotes IsValue)

section Settings

inductive Setting where
  | translatorObjects (names : List Text)
  | translatorMethods (names : List Text)
  | defaultDomain (domain : Text)
  | valuePrefix (beginning : Text)
  | extensions (names : List Text)
  | exclude (patterns : List Text)
  deriving Repr, DecidableEq

namespace Setting

def name : Setting → Text
  | .translatorObjects _ => "translatorObjects".toList
  | .translatorMethods _ => "translatorMethods".toList
  | .defaultDomain _ => "defaultDomain".toList
  | .valuePrefix _ => "prefix".toList
  | .extensions _ => "extensions".toList
  | .exclude _ => "exclude".toList

def override : Setting → Config → Config
  | .translatorObjects names, config => { config with translatorObjects := names }
  | .translatorMethods names, config => { config with translatorMethods := names }
  | .defaultDomain domain, config => { config with defaultDomain := domain }
  | .valuePrefix beginning, config => { config with valuePrefix := beginning }
  | .extensions names, config => { config with extensions := names }
  | .exclude patterns, config => { config with exclude := patterns }

def value : Setting → Json
  | .translatorObjects names => .ofTexts names
  | .translatorMethods names => .ofTexts names
  | .defaultDomain domain => .string domain
  | .valuePrefix beginning => .string beginning
  | .extensions names => .ofTexts names
  | .exclude patterns => .ofTexts patterns

end Setting

def settings (config : Config) : List Setting := [
  .translatorObjects config.translatorObjects, .translatorMethods config.translatorMethods,
  .defaultDomain config.defaultDomain, .valuePrefix config.valuePrefix,
  .extensions config.extensions, .exclude config.exclude]

theorem names_settings (config : Config) :
    config.settings.map Setting.name = fields.map (·.name) := rfl

inductive Writes : Json → Text → Prop
  | string {body text : Text} (denotes : Denotes body text) :
      Writes (.string text) (Json.quoted body)
  | texts {blanks : Text} {items : List Padded} {texts : List Text} (blank : AreBlanks blanks)
      (padded : ∀ item ∈ items, item.IsBlank)
      (each : List.Forall₂ (fun item text => ∃ body, item.inner = Json.quoted body ∧
        Denotes body text) items texts) :
      Writes (.ofTexts texts) (Json.arrayText blanks items)

/-- A member of an object that gives a setting, or one with another key and any value. A key is a
text: what spells a lone surrogate is none. -/
inductive Gives (member : Member) : Option Setting → Prop
  | setting {setting : Setting} (key : Denotes member.key.inner setting.name)
      (value : Writes setting.value member.value.inner) : Gives member (some setting)
  | other {key : Text} (named : Denotes member.key.inner key)
      (unknown : ∀ setting : Setting, setting.name ≠ key) (value : IsValue member.value.inner) :
      Gives member none

inductive GivesSettings : Text → List Setting → Prop
  | mk {before blanks after : Text} {members : List Member} {given : List (Option Setting)}
      (blank : AreBlanks blanks) (around : AreBlanks before ∧ AreBlanks after)
      (padded : ∀ member ∈ members, member.IsBlank) (each : List.Forall₂ Gives members given)
      (once : (given.reduceOption.map Setting.name).Nodup) :
      GivesSettings (before ++ (Json.objectText blanks members ++ after)) given.reduceOption

end Settings

section Partly

variable {read : Partly} {given : List (Option Setting)} {entries : List (Option Text × Draft)}

namespace Setting

def store : Setting → Partly → Partly
  | .translatorObjects names, read => { read with translatorObjects := some names }
  | .translatorMethods names, read => { read with translatorMethods := some names }
  | .defaultDomain domain, read => { read with defaultDomain := some domain }
  | .valuePrefix beginning, read => { read with valuePrefix := some beginning }
  | .extensions names, read => { read with extensions := some names }
  | .exclude patterns, read => { read with exclude := some patterns }

def isStored : Setting → Partly → Bool
  | .translatorObjects _, read => read.translatorObjects.isSome
  | .translatorMethods _, read => read.translatorMethods.isSome
  | .defaultDomain _, read => read.defaultDomain.isSome
  | .valuePrefix _, read => read.valuePrefix.isSome
  | .extensions _, read => read.extensions.isSome
  | .exclude _, read => read.exclude.isSome

theorem isStored_store_of_ne {setting other : Setting} (different : setting.name ≠ other.name)
    (read : Partly) : other.isStored (setting.store read) = other.isStored read := by
  cases setting <;> cases other <;> first | rfl | exact absurd rfl different

theorem complete_store (setting : Setting) (read : Partly) :
    (setting.store read).complete = setting.override read.complete := by
  cases setting <;> rfl

theorem complete_foldl_store (settings : List Setting) (read : Partly) :
    (settings.foldl (fun read setting => setting.store read) read).complete =
      settings.foldl (fun config setting => setting.override config) read.complete := by
  induction settings generalizing read with
  | nil => rfl
  | cons setting settings ih => rw [List.foldl_cons, List.foldl_cons, ih, complete_store]

end Setting

inductive Fits : Option Setting → Option Text × Draft → Prop
  | setting {setting : Setting} {draft : Draft} {field : Decoder.Field Partly}
      (known : fields.find? (fun field => field.name = setting.name) = some field)
      (present : field.present = setting.isStored)
      (read : field.read 127 draft = .ok setting.store) :
      Fits (some setting) (some setting.name, draft)
  | other {key : Text} {draft : Draft} (unknown : fields.find? (fun field => field.name = key) = none)
      (skipped : Decoder.skip draft = .ok ()) : Fits none (some key, draft)

theorem members_fits (fits : List.Forall₂ Fits given entries)
    (fresh : ∀ setting ∈ given.reduceOption, setting.isStored read = false)
    (once : (given.reduceOption.map Setting.name).Nodup) :
    Decoder.members fields Decoder.skipped 127 read entries =
      .ok (given.reduceOption.foldl (fun read setting => setting.store read) read) := by
  induction fits generalizing read with
  | nil => rfl
  | cons first others ih =>
    cases first with
    | @setting setting draft field known present given =>
      rw [List.reduceOption_cons_of_some] at fresh once ⊢
      obtain ⟨here, fresh⟩ := List.forall_mem_cons.1 fresh
      obtain ⟨alone, once⟩ := List.nodup_cons.1 once
      rw [List.foldl_cons, Decoder.members_known known (by rw [present, here]) given]
      refine ih (fun other mem => ?_) once
      have different : setting.name ≠ other.name := fun same =>
        alone (same ▸ List.mem_map_of_mem mem)
      rw [Setting.isStored_store_of_ne different, fresh other mem]
    | @other key draft unknown skipped =>
      rw [List.reduceOption_cons_of_none] at fresh once ⊢
      have passed : Decoder.skipped key 127 draft = .ok (id : Partly → Partly) := by
        rw [Decoder.skipped, skipped]
        rfl
      rw [Decoder.members_unknown unknown passed]
      exact ih fresh once

theorem decoder_object (fits : List.Forall₂ Fits given entries)
    (once : (given.reduceOption.map Setting.name).Nodup) :
    decoder Decoder.depthLimit (.object entries none) =
      .ok (given.reduceOption.foldl (fun config setting => setting.override config) standard) := by
  have fresh : ∀ setting ∈ given.reduceOption, setting.isStored {} = false := fun setting _ => by
    cases setting <;> rfl
  have completed (read : Partly) : Decoder.complete fields read = .ok read := by
    refine Decoder.complete_eq_self fun field mem => ?_
    simp only [fields, List.mem_cons, List.not_mem_nil, or_false] at mem
    rcases mem with rfl | rfl | rfl | rfl | rfl | rfl <;> rfl
  have recorded := Decoder.record_object (members_fits fits fresh once) (completed _)
  change Partly.complete <$> Decoder.record fields {} 128 (.object entries none) = _
  rw [recorded]
  exact congrArg Except.ok (Setting.complete_foldl_store _ {})

end Partly

section Reading

theorem field_read {α : Type} {name : String} {item : Decoder α} {get : Partly → Option α}
    {set : α → Partly → Partly} {depth : Nat} {draft : Draft} {value : α}
    (given : item depth draft = .ok value) :
    (field name item get set).read depth draft = .ok (set value) := by
  simp only [field, given]
  rfl

theorem Setting.fits (setting : Setting) :
    Fits (some setting) (some setting.name, setting.value.draft) := by
  have texts (texts : List Text) :
      Decoder.list Decoder.text 127 (Json.ofTexts texts).draft = .ok texts :=
    Decoder.list_draft fun _ _ => rfl
  cases setting with
  | translatorObjects names => exact .setting rfl rfl (field_read (texts names))
  | translatorMethods names => exact .setting rfl rfl (field_read (texts names))
  | defaultDomain domain => exact .setting rfl rfl (field_read rfl)
  | valuePrefix beginning => exact .setting rfl rfl (field_read rfl)
  | extensions names => exact .setting rfl rfl (field_read (texts names))
  | exclude patterns => exact .setting rfl rfl (field_read (texts patterns))

theorem Writes.reads {value : Json} {written : Text} (writes : Writes value written) :
    Reads written (value.draft = ·) := by
  cases writes with
  | string denotes => exact denotes.reads
  | @texts blanks items texts blank padded each =>
    have items_read : List.Forall₂ (fun item text =>
        Json.ItemReads item ((Json.string text).draft = ·)) items texts := by
      refine ((List.forall₂_and_left ..).2 ⟨padded, each⟩).imp ?_
      rintro ⟨before, _, after⟩ text ⟨blank, body, rfl, denotes⟩
      exact ⟨blank, denotes.reads⟩
    refine (Json.reads_array blank items_read).mono ?_
    rintro _ ⟨drafts, rfl, all⟩
    rw [Json.ofTexts, Json.draft, Json.drafts_eq_map, List.map_map]
    exact congrArg (Draft.array · none) (Json.map_eq_of_forall₂ all)

theorem Gives.reads {member : Member} {given : Option Setting} (gives : Gives member given)
    (blank : member.IsBlank) : Json.MemberReads member (Fits given) := by
  cases gives with
  | @setting setting key value =>
    obtain ⟨points, spelled, units⟩ := key.exists_points
    refine ⟨blank, points, spelled, value.reads.mono ?_⟩
    rintro _ rfl
    rw [units]
    exact setting.fits
  | @other key named unknown value =>
    obtain ⟨points, spelled, units⟩ := named.exists_points
    refine ⟨blank, points, spelled, value.reads.mono fun draft skipped => ?_⟩
    have free : fields.find? (fun field => field.name = key) = none := by
      rw [List.find?_eq_none]
      intro field mem same
      have named : field.name ∈ standard.settings.map Setting.name := by
        rw [names_settings]
        exact List.mem_map_of_mem mem
      obtain ⟨setting, -, named⟩ := List.mem_map.1 named
      exact unknown setting (named.trans (of_decide_eq_true same))
    rw [units]
    exact .other free skipped

theorem GivesSettings.ofJsonText_eq_ok {text : Text} {settings : List Setting}
    (gives : GivesSettings text settings) :
    ofJsonText text =
      .ok (settings.foldl (fun config setting => setting.override config) standard) := by
  obtain ⟨blank, around, padded, each, once⟩ := gives
  have members := ((List.forall₂_and_left ..).2 ⟨padded, each⟩).imp
    fun member given both => both.2.reads both.1
  have read := (Json.reads_object blank members).mono fun draft ⟨entries, object, fits⟩ =>
    show decoder Decoder.depthLimit draft = _ by rw [object, decoder_object fits once]
  exact Decoder.decode_padded (show Padded.IsBlank ⟨_, _, _⟩ from around) read

end Reading

section Printing

variable (config : Config)

theorem toJson_eq : config.toJson =
    .object (config.settings.map fun setting => (setting.name, setting.value)) := rfl

theorem isIntegral_toJson : config.toJson.isIntegral = true := by
  rw [toJson_eq, Json.isIntegral, Json.membersIntegral_iff, List.forall_mem_map]
  intro setting _
  cases setting <;> first | rfl | exact Json.isIntegral_ofTexts _

theorem decoder_toJson : decoder Decoder.depthLimit config.toJson.draft = .ok config := by
  have fits : List.Forall₂ Fits (config.settings.map some)
      (Json.namedDrafts (config.settings.map fun setting => (setting.name, setting.value))) := by
    rw [Json.namedDrafts_eq_map, List.map_map, List.forall₂_map_left_iff,
      List.forall₂_map_right_iff]
    exact List.forall₂_same.2 fun setting _ => setting.fits
  have once : (config.settings.map Setting.name).Nodup := by
    rw [names_settings]
    decide
  exact decoder_object fits once

theorem decode_toJsonText : ofJsonText config.toJsonText = .ok config :=
  Decoder.decode_pretty config.isIntegral_toJson config.decoder_toJson

theorem decode_standardText : ofJsonText Command.standardText = .ok standard :=
  Decoder.decode_pretty_append standard.isIntegral_toJson (List.forall_mem_singleton.2 rfl)
    standard.decoder_toJson

end Printing

section Creating

variable {files after : FileSystem}

theorem loadOrStandard_of_replaces
    (replaces : FileSystem.Replaces standardFile (Utf8.encode Command.standardText) files after) :
    loadOrStandard after none = .ok standard := by
  obtain ⟨-, -, written, -, -⟩ := replaces
  have present : after.isPresent standardFile = true := by
    simp only [FileSystem.isPresent, FileSystem.isFile, written, Bool.true_or]
  have text : after.readText standardFile = .ok Command.standardText := by
    simp only [FileSystem.readText, FileSystem.read, written, Utf8.decode?_encode]
  simp only [loadOrStandard, present, if_true, load, text, decode_standardText]

theorem loadOrStandard_init {arrange : List Log → Log} {arguments : List Text}
    {config : Option Text} {level : Text} {force : Bool} (rooted : files.IsRooted)
    (absent : files.isPresent standardFile = false)
    (accepted : Command.Request.ofArguments? arguments = some (.init config level force)) :
    loadOrStandard (Command.runArranged arrange files arguments).files none =
      loadOrStandard files none := by
  have before : loadOrStandard files none = .ok standard := by
    simp [loadOrStandard, absent]
  have settled : Command.Settles arrange files (.init config level force)
      (Command.perform arrange (.init config level force) (.start files)) :=
    Command.settles_perform rooted ⟨rfl, rfl⟩ _
  simp only [Command.runArranged, accepted]
  cases ran : Command.perform arrange (.init config level force) (.start files) with
  | error failure progress =>
    rw [ran] at settled
    exact congrArg (loadOrStandard · none) settled.2.files
  | ok _ progress =>
    rw [ran] at settled
    have effect : Command.Effect arrange files (.init config level force) progress.output
      progress.files := settled
    change loadOrStandard progress.files none = _
    rw [before]
    generalize progress.output = output, progress.files = files' at effect ⊢
    cases effect with
    | created _ _ replaces => exact loadOrStandard_of_replaces replaces

/-- What is read of a configuration is what was written of it, and the rest is standard. -/
theorem standard_overridden (arrange : List Log → Log) :
    (∀ config : Config, ofJsonText config.toJsonText = .ok config) ∧
    (∀ text settings, GivesSettings text settings → ofJsonText text =
      .ok (settings.foldl (fun config setting => setting.override config) standard)) ∧
    ∀ (files : FileSystem) (arguments : List Text) (config : Option Text) (level : Text)
      (force : Bool), files.IsRooted → files.isPresent standardFile = false →
      Command.Request.ofArguments? arguments = some (.init config level force) →
      loadOrStandard (Command.runArranged arrange files arguments).files none =
        loadOrStandard files none :=
  ⟨decode_toJsonText, fun _ _ gives => gives.ofJsonText_eq_ok,
    fun _ _ _ _ _ rooted absent accepted => loadOrStandard_init rooted absent accepted⟩

/-- A setting whose key is written with an escape, behind a member that is no setting and whose
value could not be read. -/
def escapedKey : Text :=
  "\x7b \"note\": [1e999, \"\\ud800\"],\n \"\\u0070refix\": \"\\n\"\x7d\n".toList

theorem givesSettings_escapedKey : GivesSettings escapedKey [.valuePrefix ['\n']] := by
  let number : Padded := ⟨[], "1e999".toList, []⟩
  let surrogate : Padded := ⟨[' '], Json.quoted "\\ud800".toList, []⟩
  let note : Member := ⟨⟨[' '], "note".toList, []⟩, ⟨[' '], Json.arrayText [] [number, surrogate], []⟩⟩
  let setting : Member :=
    ⟨⟨['\n', ' '], "\\u0070refix".toList, []⟩, ⟨[' '], Json.quoted "\\n".toList, []⟩⟩
  have huge : IsValue number.inner :=
    .number (show Json.IsNumber ([] ++ (['1'] ++ ([] ++ ['e', '9', '9', '9']))) from
      .mk (.inl rfl) (by decide) (by decide) (.inl rfl)
        (.inr ⟨'e', [], ['9', '9', '9'], rfl, .inl rfl, .inl rfl, by decide⟩))
  have lone : IsValue surrogate.inner := .string (.unit rfl .nothing)
  have unknown (setting : Setting) : setting.name ≠ "note".toList := by
    cases setting <;> exact of_decide_eq_false rfl
  have named : Denotes "note".toList "note".toList := .plain (by simp)
  have first : Gives note none :=
    .other named unknown (.array (by decide) (by decide) (by simp [huge, lone]))
  have tail : Denotes "refix".toList "refix".toList := .plain (by simp)
  have key : Denotes setting.key.inner "prefix".toList := by
    obtain ⟨points, spelled, units⟩ := tail
    exact ⟨0x70 :: points, .unit rfl spelled, congrArg (0x70 :: ·) units⟩
  have second : Gives setting (some (.valuePrefix ['\n'])) :=
    .setting key (.string ⟨[0x0A], .short (by decide) .nothing, rfl⟩)
  have text : escapedKey = [] ++ (Json.objectText [] [note, setting] ++ ['\n']) := by decide +kernel
  rw [text]
  exact .mk (by decide) (by decide) (by decide) (.cons first (.cons second .nil)) (by decide)

theorem standard_overridden_escapedKey :
    let files := FileSystem.empty ["project".toList]
    GivesSettings escapedKey [.valuePrefix ['\n']] ∧
      ofJsonText escapedKey = .ok { standard with valuePrefix := ['\n'] } ∧
      files.IsRooted ∧ files.isPresent standardFile = false ∧
      Command.Request.ofArguments? ["init".toList] = some (.init none "info".toList false) ∧
      loadOrStandard (Command.run files ["init".toList]).files none =
        loadOrStandard files none := by
  obtain ⟨-, overrides, created⟩ := standard_overridden List.flatten
  have rooted : (FileSystem.empty ["project".toList]).IsRooted := ⟨_, rfl⟩
  have absent : (FileSystem.empty ["project".toList]).isPresent standardFile = false := by
    decide +kernel
  have accepted : Command.Request.ofArguments? ["init".toList] =
      some (.init none "info".toList false) := by
    decide +kernel
  exact ⟨givesSettings_escapedKey, overrides _ _ givesSettings_escapedKey, rooted, absent, accepted,
    created _ _ _ _ _ rooted absent accepted⟩

end Creating

end MessageHarvest.Config
