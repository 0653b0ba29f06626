import MessageHarvest.Files.Selection

namespace MessageHarvest.Selector

variable (selector : Selector) (files : FileSystem)

def expansion (resource : Text) : List Text := (selector.expand? files resource).getD []

theorem expand?_eq (resource : Text) :
    selector.expand? files resource =
      if files.isPresent resource then some (selector.expansion files resource) else none := by
  unfold expansion expand? FileSystem.isPresent FileSystem.isFile FileSystem.isDirectory
  match files.place resource with
  | .error error => rfl
  | .ok (.free names) => rfl
  | .ok (.node names (.file bytes)) => rfl
  | .ok (.node names .unreadable) => rfl
  | .ok (.node names (.link target)) => rfl
  | .ok (.node names (.directory entries)) => rfl

def missing? (files : FileSystem) (resources : List Text) : Option Text :=
  resources.find? fun resource => !files.isPresent resource

theorem select_eq (resources : List Text) :
    selector.select files resources =
      match missing? files resources with
      | some missing => .error missing
      | none => .ok (resources.flatMap (selector.expansion files)) := by
  induction resources with
  | nil => rfl
  | cons resource resources ih =>
    simp only [select, expand?_eq, ih, missing?, List.find?_cons]
    cases files.isPresent resource with
    | false => rfl
    | true =>
      simp only [Bool.not_true, if_true]
      cases resources.find? fun resource => !files.isPresent resource <;> rfl

theorem select_eq_error_iff {resources : List Text} {missing : Text} :
    selector.select files resources = .error missing ↔ missing? files resources = some missing := by
  rw [select_eq]
  cases missing? files resources <;> simp

theorem select_of_present {resources : List Text}
    (present : ∀ resource ∈ resources, files.isPresent resource = true) :
    selector.select files resources = .ok (resources.flatMap (selector.expansion files)) := by
  have none_missing : missing? files resources = none :=
    List.find?_eq_none.2 fun resource mem => by simp [present resource mem]
  rw [select_eq, none_missing]

end MessageHarvest.Selector
