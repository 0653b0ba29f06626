import MessageHarvest.Proofs.Harvest.Pool
import Mathlib.Algebra.Ring.Nat
import Mathlib.Logic.Relation

/-!
Workers come to an end whichever of them goes on next: every step leaves less to do, and where
something is left to do there is a step.
-/

namespace MessageHarvest.Pool

variable {harvester : Harvester} {files : FileSystem} {pool next : Pool}

/-- The steps that a file still takes: one to read it, and one for each record it logs. -/
def stepsLeft (harvester : Harvester) (files : FileSystem) (task : Task) : Nat :=
  (if task.outcome.isNone then 1 else 0) + (toLog harvester files task).length

def remaining (harvester : Harvester) (files : FileSystem) (pool : Pool) : Nat :=
  (pool.tasks.map (stepsLeft harvester files)).sum

theorem remaining_step (step : Step harvester files pool next) :
    remaining harvester files next + 1 = remaining harvester files pool := by
  cases step with
  | read before after path log =>
    simp only [remaining, List.map_append, List.map_cons, List.sum_append, List.sum_cons, stepsLeft,
      toLog, Option.isNone_none, Option.isNone_some, if_true]
    simp only [Bool.false_eq_true, if_false]
    omega
  | emit before after path outcome record unlogged log =>
    simp only [remaining, List.map_append, List.map_cons, List.sum_append, List.sum_cons, stepsLeft,
      toLog, List.length_cons]
    omega

def Orderly (pool : Pool) : Prop := ∀ task ∈ pool.tasks, task.outcome = none → task.unlogged = []

theorem orderly_start (paths : List Text) : (start paths).Orderly := by
  simp [Orderly, start]

theorem orderly_replace {before after : List Task} {task taken : Task} {log log' : Log}
    (orderly : Orderly ⟨before ++ task :: after, log⟩) (read : taken.outcome ≠ none) :
    Orderly ⟨before ++ taken :: after, log'⟩ := by
  intro other mem untaken
  rcases List.mem_append.1 mem with mem | mem
  · exact orderly other (by simp [mem]) untaken
  · rcases List.mem_cons.1 mem with rfl | mem
    · exact absurd untaken read
    · exact orderly other (by simp [mem]) untaken

theorem orderly_step (orderly : pool.Orderly) (step : Step harvester files pool next) :
    next.Orderly := by
  cases step with
  | read => exact orderly_replace orderly (Option.some_ne_none _)
  | emit => exact orderly_replace orderly (Option.some_ne_none _)

theorem orderly_run {paths : List Text}
    (worked : Relation.ReflTransGen (Step harvester files) (start paths) pool) : pool.Orderly := by
  induction worked with
  | refl => exact orderly_start paths
  | tail _ step ih => exact orderly_step ih step

theorem exists_step (harvester : Harvester) (files : FileSystem) (orderly : pool.Orderly)
    (unfinished : ¬ pool.Finished) : ∃ next, Step harvester files pool next := by
  obtain ⟨tasks, log⟩ := pool
  simp only [Finished, not_forall] at unfinished
  obtain ⟨⟨path, outcome, unlogged⟩, mem, busy⟩ := unfinished
  obtain ⟨before, after, rfl⟩ := List.append_of_mem mem
  cases outcome with
  | none =>
    obtain rfl : unlogged = [] := orderly _ mem rfl
    exact ⟨_, .read before after path log⟩
  | some outcome =>
    cases unlogged with
    | nil => exact absurd ⟨rfl, rfl⟩ busy
    | cons record unlogged => exact ⟨_, .emit before after path outcome record unlogged log⟩

theorem exists_finished {paths : List Text}
    (worked : Relation.ReflTransGen (Step harvester files) (start paths) pool) :
    ∃ final, Relation.ReflTransGen (Step harvester files) pool final ∧ final.Finished := by
  generalize left : remaining harvester files pool = steps
  induction steps using Nat.strongRecOn generalizing pool with
  | ind steps ih =>
    by_cases finished : pool.Finished
    · exact ⟨pool, .refl, finished⟩
    · obtain ⟨next, step⟩ := exists_step harvester files (orderly_run worked) finished
      have fewer := remaining_step step
      obtain ⟨final, rest, finished⟩ := ih _ (by omega) (worked.tail step) rfl
      exact ⟨final, .head step rest, finished⟩

end MessageHarvest.Pool
