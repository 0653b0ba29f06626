import MessageHarvest.Proofs.Call.Unescape
import MessageHarvest.Proofs.Harvest.Written

/-!
Records whose message or domain is the empty text: which sources give them, and which runs write them.
A literal is looked at before it is decoded where a source is scanned, and the domain of a parsed call
is not looked at.
-/

namespace MessageHarvest

open Call (Calls Continued Denotes Found NamesDomain NamesTranslator scan unescape)
open Script (Node parseModule)

section OneScript

def oneScript (source : Text) : FileSystem where
  root := .directory [("a.js".toList, .file (Utf8.encode source))]
  working := []

def standardHarvester : Harvester := ⟨.standard, ⟨["js".toList, "jsx".toList], []⟩⟩

theorem ofConfig_standard : Harvester.ofConfig .standard = .ok standardHarvester := rfl

theorem select_oneScript (source : Text) :
    standardHarvester.selector.select (oneScript source) [['.']] = .ok ["./a.js".toList] := rfl

theorem read_oneScript (source : Text) :
    (oneScript source).read "./a.js".toList = .ok (Utf8.encode source) := rfl

theorem run_oneScript (source : Text) (before : Ledger) :
    ∃ harvest : Harvest, standardHarvester.run (oneScript source) [['.']] before =
      .ok harvest.summary harvest.toLedger :=
  ⟨⟨_, _⟩, rfl⟩

end OneScript

section Messages

variable {config : Config} {source file : Text}

/-- The parser rejects the source, and a call that is found in it has a message of line continuations
only. -/
inductive BlankMessage (config : Config) (source : Text) : Text → Prop
  | scanned {report : Script.Report} {found : Found} (rejected : parseModule source = .error report)
      (mem : found ∈ scan config source) (continued : Continued found.message) :
      BlankMessage config source ((found.domain.map unescape).getD config.defaultDomain)

theorem blankMessage_iff {domain : Text} :
    (∃ record ∈ (harvestSource config source file).1.records,
      record.message = [] ∧ record.domain = domain) ↔ BlankMessage config source domain := by
  simp only [mem_harvestSource_iff]
  constructor
  · rintro ⟨record, given, blank, rfl⟩
    cases given with
    | parsed parsed at_position yields =>
      obtain ⟨-, -, -, nonempty, -⟩ := yields
      exact absurd blank nonempty
    | scanned rejected mem => exact .scanned rejected mem (Call.unescape_eq_nil_iff.1 blank)
  · rintro ⟨rejected, mem, continued⟩
    exact ⟨_, .scanned rejected mem, Call.unescape_eq_nil_iff.2 continued, rfl⟩

/-- Only line continuations in a source that cannot be parsed bring an empty message about, whatever
the configuration. -/
theorem emptyMessage_iff (harvester : Harvester) (files : FileSystem) (resources : List Text)
    (before : Ledger) :
    (∀ source file domain,
      (∃ record ∈ (harvestSource harvester.config source file).1.records,
        record.message = [] ∧ record.domain = domain) ↔
        BlankMessage harvester.config source domain) ∧
    ∀ harvest, harvester.Completes files resources before harvest →
      ∃ paths, harvester.selector.select files resources = .ok paths ∧
        ∀ domain, harvest.catalogue.has [] domain = true ↔
          before.catalogue.has [] domain = true ∨ ∃ path ∈ paths, ∃ bytes, files.read path = .ok bytes ∧
            BlankMessage harvester.config (Utf8.decodeLossy bytes) domain := by
  refine ⟨fun source file domain => blankMessage_iff, fun harvest completes => ?_⟩
  obtain ⟨paths, selected, written⟩ := completes.written
  refine ⟨paths, selected, fun domain => ?_⟩
  rw [written, Catalogue.has_recordAll]
  refine or_congr_right ?_
  simp only [Harvester.exists_mem_recordsOf_iff, blankMessage_iff]

def continuedMessage : Text := "Translator.trans('\\\n') (".toList

theorem emptyMessage_iff_continued :
    ∃ harvester, ∃ harvest : Harvest, Harvester.ofConfig .standard = .ok harvester ∧
      harvester.run (oneScript continuedMessage) [['.']] (.blank []) =
        .ok harvest.summary harvest.toLedger ∧
      harvest.catalogue.has [] "messages".toList = true := by
  have blank : BlankMessage .standard continuedMessage "messages".toList := by
    have rejected : parseModule continuedMessage = .error ⟨.expressionExpected, 2⟩ := by
      rfl
    have mem : (⟨['\\', '\n'], none⟩ : Found) ∈ scan .standard continuedMessage := by
      decide +kernel
    have ends : ['\n'] ∈ Script.lineEnds := by decide
    exact .scanned rejected mem (.cons ends .nil)
  obtain ⟨harvest, ran⟩ := run_oneScript continuedMessage (.blank [])
  obtain ⟨paths, selected, written⟩ :=
    (emptyMessage_iff _ (oneScript continuedMessage) [['.']] (.blank [])).2 harvest (.alone ran)
  obtain rfl := Except.ok.inj ((select_oneScript _).symm.trans selected)
  refine ⟨_, harvest, ofConfig_standard, ran, (written _).2 (.inr ⟨_, List.mem_singleton_self _, ?_⟩)⟩
  exact ⟨_, read_oneScript _, blank⟩

theorem not_messages_nonempty :
    ∃ harvester, Harvester.ofConfig .standard = .ok harvester ∧
      ¬ ∀ source file, ∀ record ∈ (harvestSource harvester.config source file).1.records,
        record.message ≠ [] := by
  refine ⟨_, ofConfig_standard, fun nonempty => ?_⟩
  have given : (⟨[], "messages".toList, "test.js".toList, none⟩ : MessageRecord) ∈
      (harvestSource .standard continuedMessage "test.js".toList).1.records := by
    decide +kernel
  exact nonempty _ _ _ given rfl

end Messages

section Domains

variable {config : Config} {source file : Text}

inductive BlankDomain (config : Config) (source : Text) : Prop
  | parsed {tree node callee first : Node} {position : List Nat} {others : List Node}
      {message : Text} (parsed : parseModule source = .ok tree)
      (at_position : tree.at? position = some node) (calls : Calls callee (first :: others) node)
      (translator : NamesTranslator config callee) (denotes : Denotes first message)
      (nonempty : message ≠ []) (named : NamesDomain (first :: others) []) :
      BlankDomain config source
  | scanned {report : Script.Report} {found : Found} {body : Text}
      (rejected : parseModule source = .error report) (mem : found ∈ scan config source)
      (domain : found.domain = some body) (continued : Continued body) : BlankDomain config source

theorem blankDomain_iff (default : config.defaultDomain ≠ []) :
    (∃ record ∈ (harvestSource config source file).1.records, record.domain = []) ↔
      BlankDomain config source := by
  simp only [mem_harvestSource_iff]
  constructor
  · rintro ⟨record, given, blank⟩
    cases given with
    | parsed parsed at_position yields =>
      obtain ⟨calls, translator, denotes, nonempty, resolved⟩ := yields
      cases resolved with
      | named named =>
        obtain rfl : _ = [] := blank
        exact .parsed parsed at_position calls translator denotes nonempty named
      | unnamed => exact absurd blank default
    | @scanned report found rejected mem =>
      cases named : found.domain with
      | none =>
        rw [Call.record, named] at blank
        exact absurd blank default
      | some body =>
        rw [Call.record, named] at blank
        exact .scanned rejected mem named (Call.unescape_eq_nil_iff.1 blank)
  · rintro (⟨parsed, at_position, calls, translator, denotes, nonempty, named⟩ |
      ⟨rejected, mem, named, continued⟩)
    · have tells : Call.Tells config file _ _ := ⟨denotes, nonempty, .named named⟩
      exact ⟨_, .parsed parsed at_position ⟨calls, translator, tells⟩, rfl⟩
    · refine ⟨_, .scanned rejected mem, ?_⟩
      rw [Call.record, named]
      exact Call.unescape_eq_nil_iff.2 continued

/-- A configuration that is accepted has a default domain, but a call may name the empty domain: as it
stands where the source is parsed, and by line continuations where it is not. -/
theorem emptyDomain_iff {harvester : Harvester}
    (accepted : Harvester.ofConfig config = .ok harvester) (files : FileSystem)
    (resources : List Text) (before : Ledger) :
    (∀ source file,
      (∃ record ∈ (harvestSource config source file).1.records, record.domain = []) ↔
        BlankDomain config source) ∧
    ∀ harvest, harvester.Completes files resources before harvest →
      ∃ paths, harvester.selector.select files resources = .ok paths ∧
        ([] ∈ harvest.catalogue.domains.keys ↔
          [] ∈ before.catalogue.domains.keys ∨ ∃ path ∈ paths, ∃ bytes, files.read path = .ok bytes ∧
            BlankDomain config (Utf8.decodeLossy bytes)) := by
  obtain ⟨rfl, valid⟩ := Harvester.ofConfig_eq_ok accepted
  refine ⟨fun source file => blankDomain_iff valid.defaultDomain, fun harvest completes => ?_⟩
  obtain ⟨paths, selected, written⟩ := completes.written
  refine ⟨paths, selected, ?_⟩
  rw [written, Catalogue.mem_domains_recordAll]
  refine or_congr_right ?_
  simp only [Harvester.exists_mem_recordsOf_iff, blankDomain_iff valid.defaultDomain]

def emptyLastArgument : Text := "Translator.trans('a', \x7b\x7d, '')".toList

theorem emptyDomain_iff_lastArgument :
    ∃ harvester, ∃ harvest : Harvest, Harvester.ofConfig .standard = .ok harvester ∧
      harvester.run (oneScript emptyLastArgument) [['.']] (.blank []) =
        .ok harvest.summary harvest.toLedger ∧
      [] ∈ harvest.catalogue.domains.keys := by
  have blank : BlankDomain .standard emptyLastArgument := by
    let callee : Node := .member 1 (.identifier 1 "Translator".toList) "trans".toList
    let first : Node := .string 1 (some ['a'])
    let others : List Node := [.object 1 [] none, .string 1 (some [])]
    have parsed : parseModule emptyLastArgument =
        .ok (.moduleBody 1 [.call 1 callee (first :: others)]) := by
      rfl
    have translator : NamesTranslator .standard callee := .member (by decide) (by decide)
    have named : NamesDomain (first :: others) [] := .mk (by decide) rfl
    have at_position : (Node.moduleBody 1 [.call 1 callee (first :: others)]).at? [0] =
        some (.call 1 callee (first :: others)) := rfl
    exact .parsed parsed at_position .call translator .string (by decide) named
  obtain ⟨harvest, ran⟩ := run_oneScript emptyLastArgument (.blank [])
  obtain ⟨paths, selected, written⟩ :=
    (emptyDomain_iff ofConfig_standard (oneScript emptyLastArgument) [['.']] (.blank [])).2 harvest
      (.alone ran)
  obtain rfl := Except.ok.inj ((select_oneScript _).symm.trans selected)
  refine ⟨_, harvest, ofConfig_standard, ran, written.2 (.inr ⟨_, List.mem_singleton_self _, ?_⟩)⟩
  exact ⟨_, read_oneScript _, blank⟩

theorem not_domains_nonempty :
    ∃ harvester, Harvester.ofConfig .standard = .ok harvester ∧
      ¬ ∀ source file, ∀ record ∈ (harvestSource harvester.config source file).1.records,
        record.domain ≠ [] := by
  refine ⟨_, ofConfig_standard, fun nonempty => ?_⟩
  have given : (⟨['a'], [], "test.js".toList, some 1⟩ : MessageRecord) ∈
      (harvestSource .standard emptyLastArgument "test.js".toList).1.records := by
    decide +kernel
  exact nonempty _ _ _ given rfl

end Domains

end MessageHarvest
