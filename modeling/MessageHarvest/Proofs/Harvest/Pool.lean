import MessageHarvest.Harvest.Run
import Mathlib.Data.List.Perm.Basic
import Mathlib.Logic.Relation

/-!
Workers that share out the files of a run. Any of them may go on next: it reads a file that nobody has
taken, or adds the next record of its file to the common log.
-/

namespace MessageHarvest

abbrev FileOutcome := Except HarvestError (SourceHarvest × Log)

structure Task where
  path : Text
  outcome : Option FileOutcome
  unlogged : Log

structure Pool where
  tasks : List Task
  log : Log

namespace Pool

def start (paths : List Text) : Pool := ⟨paths.map fun path => ⟨path, none, []⟩, []⟩

def Finished (pool : Pool) : Prop :=
  ∀ task ∈ pool.tasks, task.outcome.isSome ∧ task.unlogged = []

inductive Step (harvester : Harvester) (files : FileSystem) : Pool → Pool → Prop
  | read (before after : List Task) (path : Text) (log : Log) :
      Step harvester files
        ⟨before ++ ⟨path, none, []⟩ :: after, log⟩
        ⟨before ++ ⟨path, some (harvester.harvestFile files path),
          Harvester.workerLog (harvester.harvestFile files path)⟩ :: after, log⟩
  | emit (before after : List Task) (path : Text) (outcome : FileOutcome) (record : LogRecord)
      (unlogged log : Log) :
      Step harvester files
        ⟨before ++ ⟨path, some outcome, record :: unlogged⟩ :: after, log⟩
        ⟨before ++ ⟨path, some outcome, unlogged⟩ :: after, log ++ [record]⟩

variable {harvester : Harvester} {files : FileSystem}

def toLog (harvester : Harvester) (files : FileSystem) (task : Task) : Log :=
  match task.outcome with
  | none => Harvester.workerLog (harvester.harvestFile files task.path)
  | some _ => task.unlogged

structure Sound (harvester : Harvester) (files : FileSystem) (paths : List Text) (pool : Pool) :
    Prop where
  tasks : pool.tasks.map Task.path = paths
  read : ∀ task ∈ pool.tasks, ∀ outcome ∈ task.outcome,
    outcome = harvester.harvestFile files task.path
  logged : (pool.log ++ pool.tasks.flatMap (toLog harvester files)).Perm
    (paths.flatMap fun path => Harvester.workerLog (harvester.harvestFile files path))

theorem sound_start (paths : List Text) : Sound harvester files paths (start paths) where
  tasks := by simp [start, Function.comp_def]
  read := by simp [start]
  logged := by simp [start, toLog, List.flatMap_map]

theorem sound_step {paths : List Text} {pool next : Pool} (h : Sound harvester files paths pool)
    (step : Step harvester files pool next) : Sound harvester files paths next := by
  obtain ⟨hp, ho, hl⟩ := h
  cases step with
  | read before after path log =>
    refine ⟨by simpa using hp, ?_, by simpa [toLog] using hl⟩
    intro task m outcome mo
    simp only [List.mem_append, List.mem_cons] at m
    rcases m with m | rfl | m
    · exact ho task (by simp [m]) outcome mo
    · exact (Option.some.inj mo).symm
    · exact ho task (by simp [m]) outcome mo
  | emit before after path outcome record unlogged log =>
    refine ⟨by simpa using hp, ?_, ?_⟩
    · intro task m other mo
      simp only [List.mem_append, List.mem_cons] at m
      rcases m with m | rfl | m
      · exact ho task (by simp [m]) other mo
      · exact ho ⟨path, some outcome, record :: unlogged⟩ (by simp) other mo
      · exact ho task (by simp [m]) other mo
    · -- the record moves from its task to the end of the log
      refine List.Perm.trans ?_ hl
      simp only [List.flatMap_append, List.flatMap_cons, toLog, List.append_assoc,
        List.cons_append, List.nil_append]
      exact List.Perm.append_left log List.perm_middle.symm

theorem sound_run {paths : List Text} {pool : Pool}
    (h : Relation.ReflTransGen (Step harvester files) (start paths) pool) :
    Sound harvester files paths pool := by
  induction h with
  | refl => exact sound_start paths
  | tail _ step ih => exact sound_step ih step

theorem finished_log {paths : List Text} {pool : Pool}
    (h : Relation.ReflTransGen (Step harvester files) (start paths) pool) (finished : pool.Finished) :
    pool.log.Perm
      (paths.flatMap fun path => Harvester.workerLog (harvester.harvestFile files path)) := by
  have sound := sound_run h
  have nothing : pool.tasks.flatMap (toLog harvester files) = [] := by
    rw [List.flatMap_eq_nil_iff]
    intro task m
    obtain ⟨read, logged⟩ := finished task m
    obtain ⟨outcome, ho⟩ := Option.isSome_iff_exists.1 read
    simp [toLog, ho, logged]
  simpa [nothing] using sound.logged

theorem finished_outcomes {paths : List Text} {pool : Pool}
    (h : Relation.ReflTransGen (Step harvester files) (start paths) pool) (finished : pool.Finished) :
    pool.tasks.map (fun task => (task.path, task.outcome)) =
      paths.map fun path => (path, some (harvester.harvestFile files path)) := by
  have sound := sound_run h
  rw [← sound.tasks, List.map_map]
  refine List.map_congr_left fun task m => ?_
  obtain ⟨outcome, ho⟩ := Option.isSome_iff_exists.1 (finished task m).1
  have same := sound.read task m outcome ho
  simp [ho, same]

def collect (harvester : Harvester) (pool : Pool) (harvest : Harvest) : Harvest :=
  pool.tasks.foldl (fun harvest task =>
    match task.outcome with
    | some outcome => harvester.take task.path outcome harvest
    | none => harvest) (Harvester.logAhead pool.log harvest)

theorem collect_eq {paths : List Text} {pool : Pool}
    (h : Relation.ReflTransGen (Step harvester files) (start paths) pool) (finished : pool.Finished)
    (harvest : Harvest) :
    pool.collect harvester harvest =
      harvester.runFilesTogether files (fun _ => pool.log) paths harvest := by
  have outcomes := finished_outcomes h finished
  let takeUp (harvest : Harvest) (found : Text × Option FileOutcome) : Harvest :=
    match found.2 with
    | some outcome => harvester.take found.1 outcome harvest
    | none => harvest
  calc pool.collect harvester harvest
      = (pool.tasks.map fun task => (task.path, task.outcome)).foldl takeUp
          (Harvester.logAhead pool.log harvest) := by rw [List.foldl_map]; rfl
    _ = (paths.map fun path => (path, some (harvester.harvestFile files path))).foldl takeUp
          (Harvester.logAhead pool.log harvest) := by rw [outcomes]
    _ = harvester.runFilesTogether files (fun _ => pool.log) paths harvest := by
          rw [Harvester.runFilesTogether, List.foldl_map, List.foldl_map]

end Pool

end MessageHarvest
