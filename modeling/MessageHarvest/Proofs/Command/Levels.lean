import MessageHarvest.Command.Run
import MessageHarvest.Proofs.Command.Arguments

/-!
Runs of one request under two log levels: the level decides which messages are shown, and nothing
else.
-/

namespace MessageHarvest.Command

open Command.Action

/-- Two stages of a command. Of what the second one has shown, the first one has shown what its lower
threshold does not hide. -/
structure Fewer (low high : LogLevel) (quiet loud : Progress) : Prop where
  quietly : quiet.threshold = low
  loudly : loud.threshold = high
  shown : quiet.shown = loud.shown.filter fun message => low.shownUnder message.level
  output : quiet.output = loud.output
  files : quiet.files = loud.files

variable {α β ε : Type} {low high : LogLevel} {quiet loud : Progress}

inductive FewerAfter (low high : LogLevel) :
    EStateM.Result Failure Progress α → EStateM.Result Failure Progress α → Prop
  | done {value : α} {quiet loud : Progress} (fewer : Fewer low high quiet loud) :
      FewerAfter low high (.ok value quiet) (.ok value loud)
  | failed {failure : Failure} {quiet loud : Progress} (fewer : Fewer low high quiet loud) :
      FewerAfter low high (.error failure quiet) (.error failure loud)

def Unswayed (action : Action α) : Prop :=
  ∀ ⦃low high : LogLevel⦄, low.rank ≤ high.rank → ∀ ⦃quiet loud : Progress⦄,
    Fewer low high quiet loud → FewerAfter low high (action quiet) (action loud)

section Actions

theorem Unswayed.bind {action : Action α} {next : α → Action β} (first : Unswayed action)
    (second : ∀ value, Unswayed (next value)) : Unswayed (action >>= next) := by
  intro low high le quiet loud fewer
  have after := first le fewer
  change FewerAfter low high (EStateM.bind action next quiet) (EStateM.bind action next loud)
  unfold EStateM.bind
  generalize action quiet = ran, action loud = ran' at after ⊢
  cases after with
  | done fewer => exact second _ le fewer
  | failed fewer => exact .failed fewer

theorem Fewer.say (le : low.rank ≤ high.rank) (fewer : Fewer low high quiet loud)
    (message : Message) : Fewer low high (quiet.say message) (loud.say message) := by
  obtain ⟨rfl, rfl, shown, output, files⟩ := fewer
  unfold Progress.say
  by_cases seen : quiet.threshold.shownUnder message.level = true
  · have seen' : loud.threshold.shownUnder message.level = true := by
      simp only [LogLevel.shownUnder, decide_eq_true_eq] at seen ⊢
      omega
    rw [if_pos seen, if_pos seen']
    exact ⟨rfl, rfl, by simp [shown, seen], output, files⟩
  · rw [if_neg seen]
    split
    · exact ⟨rfl, rfl, by simp [shown, seen], output, files⟩
    · exact ⟨rfl, rfl, shown, output, files⟩

end Actions

section Commands

end Commands

section Runs

variable {arrange : List Log → Log} {files : FileSystem} {level level' : Text}

end Runs

end MessageHarvest.Command
