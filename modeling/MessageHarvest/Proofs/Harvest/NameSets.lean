import MessageHarvest.Harvest.Source
import MessageHarvest.Proofs.Call.Sequence
import MessageHarvest.Proofs.Call.Walk
import MessageHarvest.Proofs.Script.NamingStatement

namespace MessageHarvest

open Script (Named Node)

structure Config.SameNames (config other : Config) : Prop where
  object : ∀ name ≠ [], name ∈ config.translatorObjects ↔ name ∈ other.translatorObjects
  method : ∀ name ≠ [], name ∈ config.translatorMethods ↔ name ∈ other.translatorMethods
  defaultDomain : config.defaultDomain = other.defaultDomain

structure Config.Unopened (config : Config) : Prop where
  object : ∀ name ∈ config.translatorObjects, '(' ∉ name
  method : ∀ name ∈ config.translatorMethods, '(' ∉ name

variable {config other : Config}

theorem Config.SameNames.symm (same : config.SameNames other) : other.SameNames config :=
  ⟨fun name some => (same.object name some).symm, fun name some => (same.method name some).symm,
    same.defaultDomain.symm⟩

namespace Call

section Scanned

variable {text after : Text} {found : Found}

theorem CallText.renamed (same : config.SameNames other) (stands : CallText config found text) :
    CallText other found text := by
  cases stands with
  | mk object_mem object_ne method_mem method_ne listed =>
    exact .mk ((same.object _ object_ne).1 object_mem) object_ne
      ((same.method _ method_ne).1 method_mem) method_ne listed

theorem CallText.opens (unopened : config.Unopened) (stands : CallText config found text) :
    ∃ head rest, '(' ∉ head ∧ text = head ++ '(' :: rest := by
  cases stands with
  | @mk object method arguments object_mem _ method_mem =>
    refine ⟨object ++ '.' :: method, arguments ++ [')'], ?_, by simp⟩
    simp [unopened.object object object_mem, unopened.method method method_mem]

theorem call?_renamed (same : config.SameNames other) (valid : config.Valid) (valid' : other.Valid)
    (unopened : config.Unopened) (unopened' : other.Unopened)
    (matched : call? (alternatives config.translatorObjects) (alternatives config.translatorMethods)
      text = some (found, after)) :
    call? (alternatives other.translatorObjects) (alternatives other.translatorMethods) text =
      some (found, after) := by
  obtain ⟨call, stands, rfl⟩ := call?_sound valid matched
  obtain ⟨match', matched'⟩ :=
    Option.isSome_iff_exists.1 (call?_complete valid' (stands.renamed same) after)
  obtain ⟨head, rest, closed, rfl⟩ := stands.opens unopened
  rw [matched']
  rw [List.append_assoc, List.cons_append] at matched matched'
  have first := call?_eq_some (unopened_alternatives unopened.object)
    (unopened_alternatives unopened.method) closed matched
  have second := call?_eq_some (unopened_alternatives unopened'.object)
    (unopened_alternatives unopened'.method) closed matched'
  exact second.symm.trans first

theorem scanFrom_congr {objects methods objects' methods' : List Text}
    (agree : ∀ text, call? objects methods text = call? objects' methods' text) (skip : Nat)
    (text : Text) : scanFrom objects methods skip text = scanFrom objects' methods' skip text := by
  fun_induction scanFrom objects methods skip text with
  | case1 => simp [scanFrom]
  | case2 skip c rest ih => rw [scanFrom, ih]
  | case3 c rest found after matched ih => rw [scanFrom, ← agree, matched, ih]
  | case4 c rest none ih => rw [scanFrom, ← agree, none, ih]

theorem records_renamed (same : config.SameNames other) (valid : config.Valid)
    (valid' : other.Valid) (unopened : config.Unopened) (unopened' : other.Unopened)
    (source file : Text) : records config source file = records other source file := by
  have agree (text : Text) :
      call? (alternatives config.translatorObjects) (alternatives config.translatorMethods) text =
        call? (alternatives other.translatorObjects) (alternatives other.translatorMethods) text :=
    Option.ext fun _ => ⟨call?_renamed same valid valid' unopened unopened',
      call?_renamed same.symm valid' valid unopened' unopened⟩
  have recorded : record config file = record other file := by
    funext found
    rw [record, record, same.defaultDomain]
  rw [records, records, recorded, scan, scan, scanFrom_congr agree]

end Scanned

section Walked

theorem namesTranslator_renamed (same : config.SameNames other) {callee : Node}
    (named : Named callee) (names : NamesTranslator config callee) :
    NamesTranslator other callee := by
  have of_member {line objectLine : Nat} {object method : Text}
      (named : Named (Node.member line (.identifier objectLine object) method))
      (object_mem : object ∈ config.translatorObjects)
      (method_mem : method ∈ config.translatorMethods) :
      object ∈ other.translatorObjects ∧ method ∈ other.translatorMethods := by
    obtain ⟨method_ne, inside⟩ := Script.named_node_iff.1 named
    obtain ⟨object_ne, -⟩ := Script.named_node_iff.1 (List.forall_mem_singleton.1 inside)
    exact ⟨(same.object _ object_ne).1 object_mem, (same.method _ method_ne).1 method_mem⟩
  cases names with
  | member object_mem method_mem =>
    obtain ⟨object_mem, method_mem⟩ := of_member named object_mem method_mem
    exact .member object_mem method_mem
  | chain object_mem method_mem =>
    have base_named := List.forall_mem_singleton.1 (Script.named_node_iff.1 named).2
    obtain ⟨object_mem, method_mem⟩ := of_member base_named object_mem method_mem
    exact .chain object_mem method_mem

theorem Calls.callee_named {callee node : Node} {arguments : List Node}
    (calls : Calls callee arguments node) (named : Named node) : Named callee := by
  have inside := (Script.named_node_iff.1 named).2
  cases calls <;> exact (List.forall_mem_cons.1 inside).1

theorem yields_renamed (same : config.SameNames other) {file : Text} {node : Node}
    {record : MessageRecord} (named : Named node) (yields : Yields config file node record) :
    Yields other file node record := by
  obtain ⟨calls, translator, denotes, nonempty, resolved⟩ := yields
  refine ⟨calls, namesTranslator_renamed same (calls.callee_named named) translator, denotes,
    nonempty, ?_⟩
  cases resolved with
  | named named => exact .named named
  | unnamed unnamed =>
    rw [same.defaultDomain]
    exact .unnamed unnamed

theorem sites_renamed (same : config.SameNames other) {tree : Node} (named : Named tree)
    (file : Text) : sites config file tree = sites other file tree := by
  induction tree using Node.induct with
  | step tree below =>
    have own : site? config file tree = site? other file tree := by
      refine Option.ext fun record => ?_
      rw [site?_eq_some_iff, site?_eq_some_iff]
      exact ⟨yields_renamed same named, yields_renamed same.symm named⟩
    have inside := (Script.named_node_iff.1 named).2
    rw [sites_eq, sites_eq other, own]
    congr 1
    exact List.flatMap_congr fun field mem => below field mem (inside field mem)

end Walked

end Call

theorem parsedSites_renamed (same : config.SameNames other) (source file : Text) :
    parsedSites config source file = parsedSites other source file := by
  unfold parsedSites
  cases parsed : Script.parseModule source with
  | error report => rfl
  | ok tree => exact congrArg Except.ok (Call.sites_renamed same (Script.named_parseModule parsed) file)

/-- Configurations that name the same find the same in every source, whether it is parsed or not. -/
theorem harvestSource_renamed (same : config.SameNames other) (valid : config.Valid)
    (valid' : other.Valid) (unopened : config.Unopened) (unopened' : other.Unopened)
    (source file : Text) :
    harvestSource config source file = harvestSource other source file ∧
      Call.records config source file = Call.records other source file := by
  have scanned := Call.records_renamed same valid valid' unopened unopened' source file
  refine ⟨?_, scanned⟩
  rw [harvestSource, harvestSource, parsedSites_renamed same, scanned]

/-- The names of `Call.twoNames` in another order, some of them twice, and empty ones. -/
def sameTwoNames : Config :=
  { (default : Config) with
    translatorObjects := [[], "Translator".toList, "Trans".toList, "Translator".toList]
    translatorMethods := ["transChoice".toList, [], "trans".toList] }

theorem harvestSource_renamed_bothPaths :
    let parsed := "Translator.transChoice('a'); Trans.trans('b')".toList
    let rejected := "Translator.transChoice('a'); Trans.trans('b') (".toList
    Call.twoNames.SameNames sameTwoNames ∧ Call.twoNames.Valid ∧ sameTwoNames.Valid ∧
      Call.twoNames.Unopened ∧ sameTwoNames.Unopened ∧
      (harvestSource sameTwoNames parsed []).1 = ⟨[], .ast,
        [⟨['a'], "messages".toList, [], some 1⟩, ⟨['b'], "messages".toList, [], some 1⟩]⟩ ∧
      (harvestSource sameTwoNames rejected []).1 = ⟨[], .fallback,
        [⟨['a'], "messages".toList, [], none⟩, ⟨['b'], "messages".toList, [], none⟩]⟩ := by
  intro parsed rejected
  have same : Call.twoNames.SameNames sameTwoNames := by
    have objects : ∀ name ∈ Call.twoNames.translatorObjects,
        name ∈ sameTwoNames.translatorObjects := by decide
    have objects' : ∀ name ∈ sameTwoNames.translatorObjects, name ≠ [] →
        name ∈ Call.twoNames.translatorObjects := by decide
    have methods : ∀ name ∈ Call.twoNames.translatorMethods,
        name ∈ sameTwoNames.translatorMethods := by decide
    have methods' : ∀ name ∈ sameTwoNames.translatorMethods, name ≠ [] →
        name ∈ Call.twoNames.translatorMethods := by decide
    exact ⟨fun name some => ⟨objects name, fun mem => objects' name mem some⟩,
      fun name some => ⟨methods name, fun mem => methods' name mem some⟩, rfl⟩
  have valid : Call.twoNames.Valid := by decide
  have valid' : sameTwoNames.Valid := by decide
  have unopened : Call.twoNames.Unopened := ⟨by decide, by decide⟩
  have unopened' : sameTwoNames.Unopened := ⟨by decide, by decide⟩
  refine ⟨same, valid, valid', unopened, unopened', ?_, ?_⟩
  · rw [← (harvestSource_renamed same valid valid' unopened unopened' parsed []).1]
    decide +kernel
  · rw [← (harvestSource_renamed same valid valid' unopened unopened' rejected []).1]
    decide +kernel

end MessageHarvest
