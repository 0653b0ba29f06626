import MessageHarvest.Proofs.Files.Content
import MessageHarvest.Proofs.Files.Selected
import MessageHarvest.Proofs.Harvest.Finishing
import MessageHarvest.Proofs.Harvest.Written

namespace MessageHarvest

open FileSystem (Leads Rewrites contentOf)

namespace Harvester

def harvestContent (harvester : Harvester) (path : Text) (content : Except FileError Bytes) :
    FileOutcome :=
  match content with
  | .error _ => .error (.unreadableFile path)
  | .ok bytes => .ok (harvestSource harvester.config (Utf8.decodeLossy bytes) path)

theorem harvestFile_eq (harvester : Harvester) (files : FileSystem) (path : Text) :
    harvester.harvestFile files path = harvester.harvestContent path (files.read path) := rfl

inductive ComesTo (harvester : Harvester) (files : FileSystem) (resources : List Text)
    (before : Ledger) : RunResult → Prop
  | alone : ComesTo harvester files resources before (harvester.run files resources before)
  | together {result : RunResult} (ran : ParallelRun harvester files resources before result) :
      ComesTo harvester files resources before result

section Results

variable {harvester : Harvester} {files : FileSystem} {resources : List Text} {before : Ledger}
  {result : RunResult}

theorem ComesTo.eq_error_iff (h : ComesTo harvester files resources before result)
    (error : HarvestError) (after : Ledger) :
    result = .error error after ↔
      ∃ missing, harvester.selector.select files resources = .error missing ∧
        error = .missingResource missing ∧ after = before := by
  cases h with
  | alone =>
    rw [run_eq]
    cases harvester.selector.select files resources with
    | error missing => simp [eq_comm]
    | ok paths => exact iff_of_false nofun (by simp)
  | together ran =>
    cases ran with
    | missing missing =>
      obtain ⟨path, unselected, rfl, rfl⟩ := select_eq_error_iff.1 missing
      simp [unselected, eq_comm]
    | finished taken =>
      obtain ⟨selected, rfl⟩ := select_eq_ok_iff.1 taken
      exact iff_of_false nofun (by simp [selected])

theorem ComesTo.completes {harvest : Harvest}
    (h : ComesTo harvester files resources before result)
    (done : result = .ok harvest.summary harvest.toLedger) :
    Completes harvester files resources before harvest := by
  cases h with
  | alone => exact .alone done
  | together ran => exact .together (done ▸ ran)

end Results

/-- A run fails when a resource is missing, whose name it then tells, and leaves the catalogue and the
log as they were. Every other run has an end, however its workers take turns, and has recorded what
each file gives by itself. What one file holds has no effect on the selection or on what the others
give. -/
theorem run_isolates_files (harvester : Harvester) (files : FileSystem) (resources : List Text)
    (before : Ledger) :
    (∀ result, ComesTo harvester files resources before result →
      (∀ error, (∃ after, result = .error error after) ↔
        ∃ missing, Selector.missing? files resources = some missing ∧
          error = .missingResource missing) ∧
      (∀ error after, result = .error error after →
        after.catalogue = before.catalogue ∧ after.log = before.log) ∧
      ∀ harvest : Harvest, result = .ok harvest.summary harvest.toLedger →
        ∃ paths, harvester.selector.select files resources = .ok paths ∧
          harvest.catalogue = before.catalogue.recordAll harvester.config.valuePrefix
            (paths.flatMap (harvester.recordsOf files))) ∧
    (∀ paths, harvester.selector.select files resources = .ok paths → ∀ pool,
      Relation.ReflTransGen (Pool.Step harvester files) (Pool.start paths) pool →
        ∃ final, Relation.ReflTransGen (Pool.Step harvester files) pool final ∧ final.Finished ∧
          ComesTo harvester files resources before
            (conclude (final.collect harvester (start before)) before)) ∧
    (∀ path, files.isFile path = true → ∃ names old, files.root.at? names = some old ∧
      old.IsRegular ∧ files.Leads path names) ∧
    ∀ names old new, files.root.at? names = some old → old.IsRegular → new.IsRegular →
      (∃ files', Rewrites names new files files') ∧
      ∀ files', Rewrites names new files files' →
        harvester.selector.select files' resources = harvester.selector.select files resources ∧
        (∀ harvest : Harvest, ComesTo harvester files' resources before
            (.ok harvest.summary harvest.toLedger) →
          ∃ paths, harvester.selector.select files resources = .ok paths ∧
            harvest.catalogue = before.catalogue.recordAll harvester.config.valuePrefix
              (paths.flatMap (harvester.recordsOf files'))) ∧
        ∀ path,
          (¬ files.Leads path names →
            harvester.harvestFile files' path = harvester.harvestFile files path) ∧
          (files.Leads path names →
            harvester.harvestFile files' path = harvester.harvestContent path (contentOf new)) := by
  refine ⟨fun result h => ⟨fun error => ?_, fun error after failed => ?_, fun harvest done => ?_⟩,
    ?_, fun path => FileSystem.exists_leads_of_isFile, ?_⟩
  · simp only [h.eq_error_iff, ← Selector.select_eq_error_iff harvester.selector]
    simp
  · obtain ⟨-, -, -, rfl⟩ := (h.eq_error_iff error after).1 failed
    exact ⟨rfl, rfl⟩
  · exact (h.completes done).written
  · -- wherever the workers are, they can still come to an end
    intro paths selected pool worked
    obtain ⟨final, rest, finished⟩ := Pool.exists_finished worked
    have taken : harvester.select files resources before = .ok paths before :=
      select_eq_ok_iff.2 ⟨selected, rfl⟩
    exact ⟨final, rest, finished, .together (.finished taken (worked.trans rest) finished)⟩
  · -- another content of one file leaves the selection as it is
    intro names old new found regular regular'
    refine ⟨FileSystem.exists_rewrites found regular regular', fun files' rewritten => ?_⟩
    have same := Selector.select_of_rewrites harvester.selector rewritten resources
    refine ⟨same, fun harvest done => ?_, fun path => ?_⟩
    · rw [← same]
      exact (done.completes rfl).written
    · simp only [harvestFile_eq]
      refine ⟨fun apart => ?_, fun leads => ?_⟩
      · rw [rewritten.read_of_apart apart]
      · rw [rewritten.read_of_leads leads]

def twoScripts : FileSystem where
  root := .directory [
    ("a.js".toList, .file (Utf8.encode "Translator.trans('a')".toList)),
    ("b.js".toList, .file (Utf8.encode "Translator.trans('b')".toList))]
  working := []

/-- A resource is missing after one that is there; one of the two files there becomes unreadable. -/
theorem run_isolates_files_twoScripts :
    (∃ after, jsHarvester.run twoScripts [['.'], "c.js".toList] (.blank []) =
        .error (.missingResource "c.js".toList) after ∧
      after.catalogue = .empty [] ∧ after.log = []) ∧
      ∃ files', Rewrites ["b.js".toList] .unreadable twoScripts files' ∧
        jsHarvester.selector.select files' [['.']] = .ok ["./a.js".toList, "./b.js".toList] ∧
        jsHarvester.harvestFile files' "./a.js".toList =
          jsHarvester.harvestFile twoScripts "./a.js".toList ∧
        jsHarvester.harvestFile files' "./b.js".toList =
          .error (.unreadableFile "./b.js".toList) := by
  refine ⟨?_, ?_⟩
  · obtain ⟨fails, untouched, -⟩ :=
      (run_isolates_files jsHarvester twoScripts [['.'], "c.js".toList] (.blank [])).1 _ .alone
    obtain ⟨after, failed⟩ := (fails _).2 ⟨"c.js".toList, rfl, rfl⟩
    exact ⟨after, failed, untouched _ _ failed⟩
  · obtain ⟨⟨files', rewritten⟩, isolated⟩ :=
      (run_isolates_files jsHarvester twoScripts [['.']] (.blank [])).2.2.2 ["b.js".toList] _
        .unreadable rfl (.file _) .unreadable
    obtain ⟨selected, -, alone⟩ := isolated files' rewritten
    have apart : ¬ twoScripts.Leads "./a.js".toList ["b.js".toList] := by
      rintro ⟨node, leads⟩
      cases leads
    exact ⟨files', rewritten, selected, (alone _).1 apart, (alone _).2 ⟨_, rfl⟩⟩

end Harvester

end MessageHarvest
