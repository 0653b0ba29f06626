import MessageHarvest.Command.Arguments
import MessageHarvest.Log.Record

namespace MessageHarvest.Command

inductive ValueVaries (level level' : Text) : OptionName → Option Text → Option Text → Prop
  | same (name : OptionName) (value : Option Text) : ValueVaries level level' name value value
  | level : ValueVaries level level' .logLevel (some level) (some level')

structure GivenVaries (level level' : Text) (given given' : Given) : Prop where
  operands : given.operands = given'.operands
  values : ∀ name, ValueVaries level level' name (given.value? name) (given'.value? name)

section Values

variable {level level' value value' text : Text} {name : OptionName} {first first' : Option Text}
  {given given' : Given}

theorem ValueVaries.or {second second' : Option Text}
    (h : ValueVaries level level' name first first')
    (h' : ValueVaries level level' name second second') :
    ValueVaries level level' name (first.or second) (first'.or second') := by
  cases h with
  | same =>
    cases first with
    | none => exact h'
    | some value => exact .same _ _
  | level => exact .level

theorem ValueVaries.getD (h : ValueVaries level level' .logLevel first first') (value : Text) :
    ValueVaries level level' .logLevel (some (first.getD value)) (some (first'.getD value)) := by
  cases h with
  | same => exact .same _ _
  | level => exact .level

theorem ValueVaries.isSome_eq (h : ValueVaries level level' name first first') :
    first.isSome = first'.isSome := by
  cases h <;> rfl

theorem GivenVaries.refl (given : Given) : GivenVaries level level' given given :=
  ⟨rfl, fun _ => .same _ _⟩

theorem value?_append (given : Given) (name : OptionName) (option : OptionName × Text) :
    ({ given with options := given.options ++ [option] } : Given).value? name =
      (given.value? name).or (if option.1 = name then some option.2 else none) := by
  unfold Given.value?
  rw [List.find?_append]
  cases given.options.find? fun option => option.1 = name with
  | some found => rfl
  | none => by_cases same : option.1 = name <;> simp [same]

theorem GivenVaries.append (h : GivenVaries level level' given given')
    (varies : ValueVaries level level' name (some value) (some value')) :
    GivenVaries level level' { given with options := given.options ++ [(name, value)] }
      { given' with options := given'.options ++ [(name, value')] } := by
  refine ⟨h.operands, fun other => ?_⟩
  rw [value?_append, value?_append]
  refine (h.values other).or ?_
  by_cases same : name = other
  · subst same
    simpa using varies
  · simp only [if_neg same]
    exact .same _ _

theorem GivenVaries.operand (h : GivenVaries level level' given given') (operands : List Text) :
    GivenVaries level level' { given with operands := given.operands ++ operands }
      { given' with operands := given'.operands ++ operands } :=
  ⟨congrArg (· ++ operands) h.operands, h.values⟩

theorem GivenVaries.add? (h : GivenVaries level level' given given')
    (varies : ValueVaries level level' name (some value) (some value')) :
    (given.add? name value = none ∧ given'.add? name value' = none) ∨
      ∃ more more', given.add? name value = some more ∧ given'.add? name value' = some more' ∧
        GivenVaries level level' more more' := by
  have has : given.has name = given'.has name := (h.values name).isSome_eq
  have path : (name.isPath && value.isEmpty) = (name.isPath && value'.isEmpty) := by
    cases varies <;> rfl
  unfold Given.add?
  rw [has, path]
  split
  · exact .inl ⟨rfl, rfl⟩
  · exact .inr ⟨_, _, rfl, rfl, h.append varies⟩

end Values

section Reading

variable {level level' : Text} {allowed : List OptionName}

end Reading

section Requests

variable {level level' : Text} {outer outer' given given' : Given} {arguments arguments' : List Text}

theorem GivenVaries.logLevelOf (around : GivenVaries level level' outer outer')
    (varies : GivenVaries level level' given given') :
    ValueVaries level level' .logLevel (some (Command.logLevelOf outer given))
      (some (Command.logLevelOf outer' given')) :=
  ((varies.values .logLevel).or (around.values .logLevel)).getD _

variable (plain : looksLikeOption level = false) (plain' : looksLikeOption level' = false)

include plain plain'

end Requests

end MessageHarvest.Command
