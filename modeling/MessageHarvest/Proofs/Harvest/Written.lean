import MessageHarvest.Proofs.Call.Walk
import MessageHarvest.Proofs.Catalogue.Recorded
import MessageHarvest.Proofs.Harvest.Parallel

namespace MessageHarvest

open Call (Found Yields scan)
open Script (Node parseModule)

section Records

variable (config : Config) (source file : Text) (record : MessageRecord)

inductive Gives : MessageRecord → Prop
  | parsed {tree node : Node} {position : List Nat} {record : MessageRecord}
      (parsed : parseModule source = .ok tree) (at_position : tree.at? position = some node)
      (yields : Yields config file node record) : Gives record
  | scanned {report : Script.Report} {found : Found} (rejected : parseModule source = .error report)
      (mem : found ∈ scan config source) : Gives (Call.record config file found)

theorem mem_harvestSource_iff :
    record ∈ (harvestSource config source file).1.records ↔ Gives config source file record := by
  unfold harvestSource parsedSites
  cases parsed : parseModule source with
  | ok tree =>
    constructor
    · intro mem
      obtain ⟨position, node, at_position, yields⟩ := (Call.mem_sites_iff config file record tree).1 mem
      exact .parsed parsed at_position yields
    · rintro (⟨same, at_position, yields⟩ | ⟨rejected, -⟩)
      · obtain rfl := Except.ok.inj (parsed.symm.trans same)
        exact (Call.mem_sites_iff config file record tree).2 ⟨_, _, at_position, yields⟩
      · cases parsed.symm.trans rejected
  | error report =>
    constructor
    · intro mem
      obtain ⟨found, scanned, rfl⟩ := List.mem_map.1 mem
      exact .scanned parsed scanned
    · rintro (⟨same, -, -⟩ | ⟨-, mem⟩)
      · cases parsed.symm.trans same
      · exact List.mem_map_of_mem mem

end Records

namespace Catalogue

variable (catalogue : Catalogue) (valuePrefix : Text)

theorem recordAll_append (found more : List MessageRecord) :
    catalogue.recordAll valuePrefix (found ++ more) =
      (catalogue.recordAll valuePrefix found).recordAll valuePrefix more :=
  List.foldl_append

theorem has_recordAll (found : List MessageRecord) (key domain : Text) :
    (catalogue.recordAll valuePrefix found).has key domain = true ↔
      catalogue.has key domain = true ∨ ∃ site ∈ found, site.message = key ∧ site.domain = domain := by
  have same : (∃ site ∈ found, site.names key domain = true) ↔
      ∃ site ∈ found, site.message = key ∧ site.domain = domain := by
    simp [MessageRecord.names]
  rw [has, has, ← same]
  by_cases named : ∃ site ∈ found, site.names key domain = true
  · rw [get?_recordAll_of_named catalogue valuePrefix named]
    exact iff_of_true rfl (.inr named)
  · have unnamed : ∀ site ∈ found, site.names key domain = false := by simpa using named
    rw [get?_recordAll_of_unnamed catalogue valuePrefix unnamed]
    exact (or_iff_left named).symm

end Catalogue

namespace Harvester

theorem ofConfig_eq_ok {config : Config} {harvester : Harvester}
    (accepted : ofConfig config = .ok harvester) :
    harvester.config = config ∧ config.Valid := by
  unfold ofConfig at accepted
  split at accepted
  · cases accepted
  · rename_i valid
    split at accepted
    · cases accepted
    · cases accepted
      exact ⟨rfl, Config.problem?_eq_none_iff.1 valid⟩

variable (harvester : Harvester) (files : FileSystem)

def recordsOf (path : Text) : List MessageRecord :=
  match harvester.harvestFile files path with
  | .ok (found, _) => found.records
  | .error _ => []

theorem mem_recordsOf_iff (path : Text) (record : MessageRecord) :
    record ∈ harvester.recordsOf files path ↔ ∃ bytes, files.read path = .ok bytes ∧
      record ∈ (harvestSource harvester.config (Utf8.decodeLossy bytes) path).1.records := by
  unfold recordsOf harvestFile
  cases files.read path with
  | error error => simp
  | ok bytes => simp

theorem exists_mem_recordsOf_iff (paths : List Text) (P : MessageRecord → Prop) :
    (∃ record ∈ paths.flatMap (harvester.recordsOf files), P record) ↔
      ∃ path ∈ paths, ∃ bytes, files.read path = .ok bytes ∧
        ∃ record ∈ (harvestSource harvester.config (Utf8.decodeLossy bytes) path).1.records,
          P record := by
  simp only [List.mem_flatMap, mem_recordsOf_iff]
  constructor
  · rintro ⟨record, ⟨path, mem, bytes, read, given⟩, holds⟩
    exact ⟨path, mem, bytes, read, record, given, holds⟩
  · rintro ⟨path, mem, bytes, read, record, given, holds⟩
    exact ⟨record, ⟨path, mem, bytes, read, given⟩, holds⟩

theorem catalogue_take (path : Text) (harvest : Harvest) :
    (harvester.take path (harvester.harvestFile files path) harvest).catalogue =
      harvest.catalogue.recordAll harvester.config.valuePrefix (harvester.recordsOf files path) := by
  unfold recordsOf
  cases harvester.harvestFile files path <;> rfl

theorem catalogue_runFiles (paths : List Text) (harvest : Harvest) :
    (harvester.runFiles files paths harvest).catalogue =
      harvest.catalogue.recordAll harvester.config.valuePrefix
        (paths.flatMap (harvester.recordsOf files)) := by
  induction paths generalizing harvest with
  | nil => rfl
  | cons path paths ih =>
    rw [runFiles, ih, catalogue_take, List.flatMap_cons, Catalogue.recordAll_append]
    rfl

inductive Completes (resources : List Text) (before : Ledger) (harvest : Harvest) : Prop
  | alone (ran : harvester.run files resources before = .ok harvest.summary harvest.toLedger) :
      Completes resources before harvest
  | together (ran : ParallelRun harvester files resources before
      (.ok harvest.summary harvest.toLedger)) : Completes resources before harvest

variable {harvester files} {resources : List Text} {before : Ledger} {harvest : Harvest}

theorem Completes.refines (completes : Completes harvester files resources before harvest) :
    ∃ paths, harvester.selector.select files resources = .ok paths ∧
      Refines (harvester.runFiles files paths (start before)) harvest := by
  cases completes with
  | alone ran =>
    rw [run_eq] at ran
    cases selected : harvester.selector.select files resources with
    | error missing =>
      rw [selected] at ran
      cases ran
    | ok paths =>
      rw [selected] at ran
      obtain rfl := eq_of_conclude ran
      exact ⟨paths, rfl, rfl, rfl, .refl _, rfl⟩
  | together ran =>
    generalize came : EStateM.Result.ok harvest.summary harvest.toLedger = result at ran
    cases ran with
    | missing => cases came
    | finished taken worked finished =>
      obtain ⟨selected, rfl⟩ := select_eq_ok_iff.1 taken
      obtain rfl := eq_of_conclude came.symm
      exact ⟨_, selected, refines_collect harvester files _ worked finished⟩

theorem Completes.written (completes : Completes harvester files resources before harvest) :
    ∃ paths, harvester.selector.select files resources = .ok paths ∧
      harvest.catalogue = before.catalogue.recordAll harvester.config.valuePrefix
        (paths.flatMap (harvester.recordsOf files)) := by
  obtain ⟨paths, selected, refines⟩ := completes.refines
  exact ⟨paths, selected,
    refines.catalogue.trans (catalogue_runFiles harvester files paths (start before))⟩

end Harvester

end MessageHarvest
