import MessageHarvest.Proofs.Harvest.Pool

namespace MessageHarvest

def Harvest.SameFindings (a b : Harvest) : Prop :=
  a.catalogue = b.catalogue ∧ a.summary = b.summary

namespace LogRecord

def tellsExtracted (record : LogRecord) : Bool :=
  record.message = "Extracted \x7bcount\x7d message(s) from \x7bfile\x7d".toList

def tellsSkipped (record : LogRecord) : Bool :=
  record.message = "Skipping \x7bfile\x7d: \x7bmessage\x7d".toList

def tellsFile (record : LogRecord) : Bool := record.tellsExtracted || record.tellsSkipped

end LogRecord

namespace Harvester

open scoped List

variable (harvester : Harvester) (files : FileSystem)

def fileRecord (path : Text) : FileOutcome → LogRecord
  | .error error => skipRecord path error
  | .ok (found, _) => doneRecord found

theorem tellsFile_fileRecord (path : Text) (outcome : FileOutcome) :
    (fileRecord path outcome).tellsFile = true := by
  cases outcome with
  | error error => simp [fileRecord, skipRecord, LogRecord.tellsFile, LogRecord.tellsSkipped]
  | ok found => simp [fileRecord, doneRecord, LogRecord.tellsFile, LogRecord.tellsExtracted]

theorem tellsFile_of_mem_parseLog {file : Text} {report : Script.Report} {record : LogRecord}
    (h : record ∈ parseLog file report) : record.tellsFile = false := by
  simp only [parseLog, List.mem_cons, List.not_mem_nil, or_false] at h
  rcases h with rfl | rfl <;>
    simp [LogRecord.tellsFile, LogRecord.tellsExtracted, LogRecord.tellsSkipped]

theorem tellsFile_of_mem_workerLog {path : Text} {record : LogRecord}
    (h : record ∈ workerLog (harvester.harvestFile files path)) : record.tellsFile = false := by
  unfold harvestFile at h
  cases bytes : files.read path with
  | error error => simp [bytes, workerLog] at h
  | ok bytes' =>
    simp only [bytes, workerLog, harvestSource] at h
    cases parsed : parsedSites harvester.config (Utf8.decodeLossy bytes') path with
    | ok records => simp [parsed] at h
    | error report =>
      simp only [parsed] at h
      exact tellsFile_of_mem_parseLog h

theorem sameFindings_take (path : Text) (outcome : FileOutcome) {a b : Harvest}
    (h : a.SameFindings b) :
    (harvester.take path outcome a).SameFindings (harvester.take path outcome b) := by
  obtain ⟨hc, hs⟩ := h
  cases outcome <;> simp [take, Harvest.SameFindings, hc, hs]

theorem log_take (path : Text) (outcome : FileOutcome) (harvest : Harvest) :
    (harvester.take path outcome harvest).log = harvest.log ++ [fileRecord path outcome] := by
  cases outcome <;> rfl

def takeFiles (paths : List Text) (harvest : Harvest) : Harvest :=
  paths.foldl (fun harvest path => harvester.take path (harvester.harvestFile files path) harvest)
    harvest

theorem sameFindings_runFiles (paths : List Text) {a b : Harvest} (h : a.SameFindings b) :
    (harvester.runFiles files paths a).SameFindings (harvester.takeFiles files paths b) := by
  induction paths generalizing a b with
  | nil => exact h
  | cons path paths ih => exact ih (sameFindings_take harvester path _ h)

theorem log_runFiles (paths : List Text) (harvest : Harvest) :
    (harvester.runFiles files paths harvest).log = harvest.log ++ paths.flatMap fun path =>
      workerLog (harvester.harvestFile files path) ++
        [fileRecord path (harvester.harvestFile files path)] := by
  induction paths generalizing harvest with
  | nil => simp [runFiles]
  | cons path paths ih =>
    simp only [runFiles, ih, log_take, logAhead, List.flatMap_cons, List.append_assoc]

theorem log_takeFiles (paths : List Text) (harvest : Harvest) :
    (harvester.takeFiles files paths harvest).log =
      harvest.log ++ paths.map fun path => fileRecord path (harvester.harvestFile files path) := by
  induction paths generalizing harvest with
  | nil => simp [takeFiles]
  | cons path paths ih =>
    simp only [takeFiles, List.foldl_cons] at ih ⊢
    rw [ih, log_take, List.append_assoc, List.singleton_append, List.map_cons]

theorem runFilesTogether_eq (arrange : List Log → Log) (paths : List Text) (harvest : Harvest) :
    harvester.runFilesTogether files arrange paths harvest =
      harvester.takeFiles files paths
        (logAhead (arrange (paths.map fun path => workerLog (harvester.harvestFile files path)))
          harvest) := by
  simp only [runFilesTogether, List.foldl_map, List.map_map]
  rfl

theorem runFilesTogether_sameFindings (arrange : List Log → Log) (paths : List Text)
    (harvest : Harvest) :
    (harvester.runFiles files paths harvest).SameFindings
      (harvester.runFilesTogether files arrange paths harvest) := by
  rw [runFilesTogether_eq]
  exact sameFindings_runFiles harvester files paths ⟨rfl, rfl⟩

theorem runFilesTogether_log_perm {emitted : Log} {paths : List Text} {harvest : Harvest}
    (h : emitted.Perm (paths.flatMap fun path => workerLog (harvester.harvestFile files path))) :
    (harvester.runFilesTogether files (fun _ => emitted) paths harvest).log.Perm
      (harvester.runFiles files paths harvest).log := by
  simp only [runFilesTogether_eq, log_takeFiles, log_runFiles, logAhead, List.append_assoc]
  refine List.Perm.append_left harvest.log ?_
  calc emitted ++ paths.map (fun path => fileRecord path (harvester.harvestFile files path))
      _ ~ (paths.flatMap fun path => workerLog (harvester.harvestFile files path)) ++
          paths.map (fun path => fileRecord path (harvester.harvestFile files path)) :=
        List.Perm.append_right _ h
      _ = (paths.flatMap fun path => workerLog (harvester.harvestFile files path)) ++
          paths.flatMap (fun path => [fileRecord path (harvester.harvestFile files path)]) := by
        rw [← List.map_eq_flatMap]
      _ ~ _ := List.flatMap_append_perm ..

theorem runFiles_fileRecords (paths : List Text) (harvest : Harvest) :
    (harvester.runFiles files paths harvest).log.filter LogRecord.tellsFile =
      harvest.log.filter LogRecord.tellsFile ++
        paths.map fun path => fileRecord path (harvester.harvestFile files path) := by
  rw [log_runFiles, List.filter_append, List.filter_flatMap]
  congr 1
  rw [List.map_eq_flatMap]
  refine List.flatMap_congr fun path _ => ?_
  have quiet : (workerLog (harvester.harvestFile files path)).filter LogRecord.tellsFile = [] :=
    List.filter_eq_nil_iff.2 fun record m => by
      simp [tellsFile_of_mem_workerLog harvester files m]
  simp [quiet, tellsFile_fileRecord]

theorem runFilesTogether_fileRecords {emitted : Log} {paths : List Text} {harvest : Harvest}
    (h : emitted.Perm (paths.flatMap fun path => workerLog (harvester.harvestFile files path))) :
    (harvester.runFilesTogether files (fun _ => emitted) paths harvest).log.filter
        LogRecord.tellsFile =
      (harvester.runFiles files paths harvest).log.filter LogRecord.tellsFile := by
  have quiet : emitted.filter LogRecord.tellsFile = [] := by
    refine List.filter_eq_nil_iff.2 fun record m => ?_
    obtain ⟨path, -, mp⟩ := List.mem_flatMap.1 (h.subset m)
    simp [tellsFile_of_mem_workerLog harvester files mp]
  have loud : (paths.map fun path => fileRecord path (harvester.harvestFile files path)).filter
      LogRecord.tellsFile =
        paths.map fun path => fileRecord path (harvester.harvestFile files path) := by
    refine List.filter_eq_self.2 fun record m => ?_
    obtain ⟨path, -, rfl⟩ := List.mem_map.1 m
    exact tellsFile_fileRecord path _
  rw [runFilesTogether_eq, log_takeFiles, runFiles_fileRecords]
  simp [logAhead, quiet, loud]

section Selection

variable {harvester files} {resources : List Text} {before after : Ledger}

theorem select_eq_ok_iff {paths : List Text} :
    harvester.select files resources before = .ok paths after ↔
      harvester.selector.select files resources = .ok paths ∧ after = before := by
  unfold select
  cases harvester.selector.select files resources with
  | error path => exact iff_of_false nofun (by simp)
  | ok selected =>
    change EStateM.Result.ok selected before = .ok paths after ↔ _
    simp [eq_comm]

theorem select_eq_error_iff {error : HarvestError} :
    harvester.select files resources before = .error error after ↔
      ∃ path, harvester.selector.select files resources = .error path ∧
        error = .missingResource path ∧ after = before := by
  unfold select
  cases harvester.selector.select files resources with
  | ok selected => exact iff_of_false nofun (by simp)
  | error path =>
    change EStateM.Result.error (HarvestError.missingResource path) before = .error error after ↔ _
    simp [eq_comm]

theorem select_bind {α : Type} (next : List Text → Harvesting α) :
    (harvester.select files resources >>= next) before =
      match harvester.selector.select files resources with
      | .error path => .error (.missingResource path) before
      | .ok paths => next paths before := by
  change EStateM.bind (harvester.select files resources) next before = _
  unfold EStateM.bind select
  cases harvester.selector.select files resources <;> rfl

theorem eq_of_conclude {found harvest : Harvest}
    (came : conclude found before = .ok harvest.summary harvest.toLedger) : found = harvest := by
  obtain ⟨⟨catalogue, log⟩, summary⟩ := found
  obtain ⟨⟨catalogue', log'⟩, summary'⟩ := harvest
  cases came
  rfl

theorem run_eq : harvester.run files resources before =
    match harvester.selector.select files resources with
    | .error path => .error (.missingResource path) before
    | .ok paths => conclude (harvester.runFiles files paths (start before)) before :=
  select_bind _

theorem runTogether_eq (arrange : List Log → Log) :
    harvester.runTogether files arrange resources before =
      match harvester.selector.select files resources with
      | .error path => .error (.missingResource path) before
      | .ok paths => conclude (harvester.runFilesTogether files arrange paths (start before)) before :=
  select_bind _

end Selection

inductive ParallelRun (resources : List Text) (before : Ledger) : RunResult → Prop
  | missing {error : HarvestError} {after : Ledger}
      (missing : harvester.select files resources before = .error error after) :
      ParallelRun resources before (.error error after)
  | finished {paths : List Text} {pool : Pool} {middle : Ledger}
      (selected : harvester.select files resources before = .ok paths middle)
      (worked : Relation.ReflTransGen (Pool.Step harvester files) (Pool.start paths) pool)
      (finished : pool.Finished) :
      ParallelRun resources before (conclude (pool.collect harvester (start middle)) middle)

structure Refines (sequential parallel : Harvest) : Prop where
  summary : parallel.summary = sequential.summary
  catalogue : parallel.catalogue = sequential.catalogue
  log : parallel.log.Perm sequential.log
  fileRecords :
    parallel.log.filter LogRecord.tellsFile = sequential.log.filter LogRecord.tellsFile

theorem refines_collect {paths : List Text} {pool : Pool} (harvest : Harvest)
    (worked : Relation.ReflTransGen (Pool.Step harvester files) (Pool.start paths) pool)
    (finished : pool.Finished) :
    Refines (harvester.runFiles files paths harvest) (pool.collect harvester harvest) := by
  have emitted := Pool.finished_log worked finished
  obtain ⟨hc, hs⟩ := runFilesTogether_sameFindings harvester files (fun _ => pool.log) paths harvest
  rw [Pool.collect_eq worked finished]
  exact ⟨hs.symm, hc.symm, runFilesTogether_log_perm harvester files emitted,
    runFilesTogether_fileRecords harvester files emitted⟩

theorem parallelRun_refines {resources : List Text} {before : Ledger} {result : RunResult}
    (h : ParallelRun harvester files resources before result) :
    (∃ arrange, result = harvester.runTogether files arrange resources before) ∧
    (∀ error after, result = .error error after ↔
      harvester.run files resources before = .error error after) ∧
    (∀ parallel : Harvest, result = .ok parallel.summary parallel.toLedger →
      ∃ sequential : Harvest, harvester.run files resources before =
        .ok sequential.summary sequential.toLedger ∧ Refines sequential parallel) ∧
    result.ledger.catalogue =
      (RunResult.ledger (harvester.run files resources before)).catalogue ∧
    (∀ error after, result = .error error after → after = before) := by
  cases h with
  | @missing error after missing =>
    obtain ⟨path, unselected, rfl, rfl⟩ := select_eq_error_iff.1 missing
    have ran : harvester.run files resources after = .error (.missingResource path) after := by
      rw [run_eq, unselected]
    rw [ran]
    refine ⟨⟨List.flatten, ?_⟩, fun _ _ => Iff.rfl, nofun, rfl, ?_⟩
    · rw [runTogether_eq, unselected]
    · rintro _ _ ⟨⟩
      rfl
  | @finished paths pool middle taken worked finished =>
    obtain ⟨selected, rfl⟩ := select_eq_ok_iff.1 taken
    have refined := refines_collect harvester files (start middle) worked finished
    have ran : harvester.run files resources middle =
        conclude (harvester.runFiles files paths (start middle)) middle := by
      rw [run_eq, selected]
    rw [ran]
    refine ⟨⟨fun _ => pool.log, ?_⟩, fun _ _ => iff_of_false nofun nofun, ?_, refined.catalogue,
      nofun⟩
    · rw [runTogether_eq, selected, Pool.collect_eq worked finished]
    · intro parallel came
      obtain rfl := eq_of_conclude came
      exact ⟨_, rfl, refined⟩

def twoFaultyFiles : FileSystem where
  root := .directory [("a.js".toList, .unreadable), ("b.js".toList, .file (Utf8.encode ['(']))]
  working := []

def jsHarvester : Harvester := ⟨.standard, ⟨["js".toList], []⟩⟩

/-- The second file is taken first, and the first one between the two records of the second. -/
theorem parallelRun_refines_twoFaultyFiles :
    ∃ pool : Pool, ParallelRun jsHarvester twoFaultyFiles [['.']] (.blank [])
        (conclude (pool.collect jsHarvester (start (.blank []))) (.blank [])) ∧
      pool.log.length = 2 ∧
      ∃ sequential : Harvest, jsHarvester.run twoFaultyFiles [['.']] (.blank []) =
          .ok sequential.summary sequential.toLedger ∧
        Refines sequential (pool.collect jsHarvester (start (.blank []))) := by
  have selected : jsHarvester.select twoFaultyFiles [['.']] (.blank []) =
      .ok ["./a.js".toList, "./b.js".toList] (.blank []) := by rfl
  let records := parseLog "./b.js".toList ⟨.expressionExpected, 1⟩
  let pool : Pool := ⟨[
    ⟨"./a.js".toList, some (jsHarvester.harvestFile twoFaultyFiles "./a.js".toList), []⟩,
    ⟨"./b.js".toList, some (jsHarvester.harvestFile twoFaultyFiles "./b.js".toList), []⟩], records⟩
  have worked : Relation.ReflTransGen (Pool.Step jsHarvester twoFaultyFiles)
      (Pool.start ["./a.js".toList, "./b.js".toList]) pool := by
    refine .head (.read [⟨"./a.js".toList, none, []⟩] [] "./b.js".toList []) ?_
    refine .head (.emit [⟨"./a.js".toList, none, []⟩] [] "./b.js".toList _ _ _ []) ?_
    refine .head (.read [] _ "./a.js".toList _) ?_
    exact .single (.emit [_] [] "./b.js".toList _ _ [] _)
  have finished : pool.Finished := by
    simp [pool, Pool.Finished]
  have ran : ParallelRun jsHarvester twoFaultyFiles [['.']] (.blank [])
      (conclude (pool.collect jsHarvester (start (.blank []))) (.blank [])) :=
    .finished selected worked finished
  exact ⟨pool, ran, rfl, (parallelRun_refines jsHarvester twoFaultyFiles ran).2.2.1 _ rfl⟩

end Harvester

end MessageHarvest
