import MessageHarvest.Text.Basic

namespace MessageHarvest

structure Config where
  translatorObjects : List Text
  translatorMethods : List Text
  defaultDomain : Text
  /-- Put before a message to give its default translation. -/
  valuePrefix : Text
  extensions : List Text
  exclude : List Text
  deriving Repr, DecidableEq

namespace Config

def standard : Config where
  translatorObjects := ["Translator".toList]
  translatorMethods := ["trans".toList, "transChoice".toList]
  defaultDomain := "messages".toList
  valuePrefix := []
  extensions := ["js".toList, "jsx".toList]
  exclude := []

instance : Inhabited Config := ⟨standard⟩

inductive Problem where
  | noObject
  | noMethod
  | noDefaultDomain
  deriving Repr, DecidableEq

def Problem.message : Problem → Text
  | .noObject => "translatorObjects must contain at least one name".toList
  | .noMethod => "translatorMethods must contain at least one name".toList
  | .noDefaultDomain => "defaultDomain must not be empty".toList

structure Valid (config : Config) : Prop where
  object : ∃ name ∈ config.translatorObjects, name ≠ []
  method : ∃ name ∈ config.translatorMethods, name ≠ []
  defaultDomain : config.defaultDomain ≠ []

def problem? (config : Config) : Option Problem :=
  if config.translatorObjects.all List.isEmpty then some .noObject
  else if config.translatorMethods.all List.isEmpty then some .noMethod
  else if config.defaultDomain.isEmpty then some .noDefaultDomain
  else none

theorem problem?_eq_none_iff {config : Config} : config.problem? = none ↔ config.Valid := by
  have allEmpty (names : List Text) :
      names.all List.isEmpty = false ↔ ∃ name ∈ names, name ≠ [] := by
    simp [List.all_eq_false]
  unfold problem?
  constructor
  · intro h
    split at h
    · simp at h
    · rename_i object
      split at h
      · simp at h
      · rename_i method
        split at h
        · simp at h
        · rename_i domain
          exact ⟨(allEmpty _).1 (by simpa using object), (allEmpty _).1 (by simpa using method),
            by simpa using domain⟩
  · intro h
    have object := (allEmpty _).2 h.object
    have method := (allEmpty _).2 h.method
    simp [object, method, h.defaultDomain]

instance (config : Config) : Decidable config.Valid :=
  decidable_of_iff _ problem?_eq_none_iff

def isObject (config : Config) (name : Text) : Bool := config.translatorObjects.contains name

def isMethod (config : Config) (name : Text) : Bool := config.translatorMethods.contains name

end Config

end MessageHarvest
