import MessageHarvest.Message.Location
import MessageHarvest.Proofs.Files.Walk
import MessageHarvest.Proofs.Json.Number

/-!
Recorded sources: what is recorded for a file that is selected tells its normalized path and the
line, for the path has a dot behind each of its colons and a line number has none.
-/

namespace MessageHarvest

def Dotted (text : Text) : Prop := ∀ behind, ':' :: behind <:+ text → '.' ∈ behind

variable {c : Char} {text front front' between behind behind' path path' : Text}

section Dots

theorem Dotted.tail (dotted : Dotted (c :: text)) : Dotted text :=
  fun behind suffix => dotted behind (suffix.trans (List.suffix_cons c text))

theorem dotted_cons (colon : c = ':' → '.' ∈ text) (dotted : Dotted text) : Dotted (c :: text) := by
  intro behind suffix
  rcases List.suffix_cons_iff.1 suffix with same | inside
  · obtain ⟨rfl, rfl⟩ := List.cons.inj same
    exact colon rfl
  · exact dotted behind inside

theorem dotted_append_dot (uncoloned : ':' ∉ behind) (front : Text) :
    Dotted (front ++ '.' :: behind) := by
  induction front with
  | nil =>
    refine dotted_cons (fun same => absurd same (by decide)) fun behind' suffix => ?_
    exact absurd (suffix.subset List.mem_cons_self) uncoloned
  | cons c front ih => exact dotted_cons (fun _ => by simp) ih

theorem dot_mem_collapse (inRun : Bool) (mem : '.' ∈ text) :
    '.' ∈ collapseSeparators inRun text := by
  induction text generalizing inRun with
  | nil => cases mem
  | cons c text ih =>
    rw [collapseSeparators]
    split
    · rename_i separator
      have later : '.' ∈ text := by
        refine (List.mem_cons.1 mem).resolve_left ?_
        rintro rfl
        cases separator
      split
      · exact ih true later
      · exact List.mem_cons_of_mem _ (ih true later)
    · exact List.mem_cons.2 ((List.mem_cons.1 mem).imp_right (ih false))

theorem Dotted.collapse (dotted : Dotted text) (inRun : Bool) :
    Dotted (collapseSeparators inRun text) := by
  induction text generalizing inRun with
  | nil => exact dotted
  | cons c text ih =>
    have later := ih dotted.tail
    rw [collapseSeparators]
    split
    · split
      · exact later true
      · exact dotted_cons (fun same => absurd same (by decide)) (later true)
    · refine dotted_cons ?_ (later false)
      rintro rfl
      exact dot_mem_collapse false (dotted text (List.suffix_refl _))

end Dots

theorem Selector.dotted_of_accepts {selector : Selector}
    (uncoloned : ∀ extension ∈ selector.extensions, ':' ∉ extension)
    (accepted : selector.accepts path = true) : Dotted path := by
  obtain ⟨⟨stem, extension, mem, named, -, -⟩, -⟩ := Selector.accepts_iff.1 accepted
  have last : (Path.components path).getLast? = some (stem ++ '.' :: extension) := by
    unfold Path.fileName? at named
    split at named
    · rename_i found
      rw [found]
      simpa using (Option.ite_none_left_eq_some.1 named).2
    · cases named
  obtain ⟨front, trail, rfl, plain⟩ := Path.exists_of_getLast?_components last
  have behind : ':' ∉ extension ++ trail := by
    rw [List.mem_append]
    rintro (colon | colon)
    · exact uncoloned extension mem colon
    · rcases plain ':' colon with same | same <;> cases same
  simpa using dotted_append_dot behind (front ++ stem)

section Colon

theorem not_mem_ofNat (unlike : c.isDigit = false) (line : Nat) : c ∉ Text.ofNat line := by
  intro mem
  rw [Text.isDigit_of_mem_ofNat mem] at unlike
  cases unlike

theorem eq_nil_of_colon (uncoloned : ':' ∉ behind)
    (same : ':' :: behind = between ++ ':' :: behind') : between = [] := by
  cases between with
  | nil => rfl
  | cons c between =>
    obtain ⟨-, rfl⟩ := List.cons.inj same
    simp at uncoloned

theorem eq_of_append_colon (uncoloned : ':' ∉ behind) (uncoloned' : ':' ∉ behind')
    (same : front ++ ':' :: behind = front' ++ ':' :: behind') :
    front = front' ∧ behind = behind' := by
  rcases List.append_eq_append_iff.1 same with ⟨between, rfl, rest⟩ | ⟨between, rfl, rest⟩
  · obtain rfl := eq_nil_of_colon uncoloned rest
    exact ⟨(List.append_nil _).symm, (List.cons.inj rest).2⟩
  · obtain rfl := eq_nil_of_colon uncoloned' rest
    exact ⟨List.append_nil _, (List.cons.inj rest).2.symm⟩

theorem Dotted.ne_sourceLocation (dotted : Dotted text) (path : Text) (line : Nat) :
    text ≠ sourceLocation path (some line) := by
  rintro rfl
  exact not_mem_ofNat (by decide) line (dotted _ ⟨normalizePath path, rfl⟩)

theorem sourceLocation_some_inj {line line' : Nat}
    (same : sourceLocation path (some line) = sourceLocation path' (some line')) :
    normalizePath path = normalizePath path' ∧ line = line' := by
  obtain ⟨paths, numbers⟩ :=
    eq_of_append_colon (not_mem_ofNat (by decide) line) (not_mem_ofNat (by decide) line') same
  refine ⟨paths, ?_⟩
  rw [← Json.natOfDigits_ofNat line, numbers, Json.natOfDigits_ofNat]

end Colon

/-- What is recorded for files that are selected for their extensions tells them apart, up to the
separators in their paths, and tells whether a line is known and which. -/
theorem sourceLocation_eq_iff {config : Config} {selector : Selector}
    (built : Selector.ofConfig config = .ok selector)
    (uncoloned : ∀ extension ∈ config.extensions, ':' ∉ extension)
    (accepted : selector.accepts path = true) (accepted' : selector.accepts path' = true)
    (line line' : Option Nat) :
    (sourceLocation path line = sourceLocation path' line' ↔
      normalizePath path = normalizePath path' ∧ line = line') ∧
    ∀ number, sourceLocation path none ≠ sourceLocation path' (some number) := by
  rw [← (Selector.ofConfig_eq_ok built).1] at uncoloned
  have dotted := (Selector.dotted_of_accepts uncoloned accepted).collapse false
  have dotted' := (Selector.dotted_of_accepts uncoloned accepted').collapse false
  refine ⟨⟨fun same => ?_, ?_⟩, dotted.ne_sourceLocation path'⟩
  · match line, line' with
    | none, none => exact ⟨same, rfl⟩
    | none, some number => exact absurd same (dotted.ne_sourceLocation path' number)
    | some number, none => exact absurd same.symm (dotted'.ne_sourceLocation path number)
    | some number, some number' =>
      exact (sourceLocation_some_inj same).imp_right (congrArg some)
  · rintro ⟨paths, rfl⟩
    unfold sourceLocation
    rw [paths]

/-- A directory is named as a file with a line would be recorded. -/
theorem sourceLocation_eq_iff_colons :
    ∃ selector, Selector.ofConfig Config.standard = .ok selector ∧
      (∀ extension ∈ Config.standard.extensions, ':' ∉ extension) ∧
      selector.accepts "a.js".toList = true ∧ selector.accepts "a.js:1//b:2.js".toList = true ∧
      sourceLocation "a.js:1//b:2.js".toList (some 12) = "a.js:1/b:2.js:12".toList ∧
      (sourceLocation "a.js".toList (some 1) = sourceLocation "a.js:1//b:2.js".toList none ↔
        normalizePath "a.js".toList = normalizePath "a.js:1//b:2.js".toList ∧
          some 1 = (none : Option Nat)) := by
  obtain ⟨selector, built⟩ : ∃ selector, Selector.ofConfig Config.standard = .ok selector :=
    ⟨_, rfl⟩
  have uncoloned : ∀ extension ∈ Config.standard.extensions, ':' ∉ extension := by decide
  have accepted : selector.accepts "a.js".toList = true := by
    cases built
    decide +kernel
  have accepted' : selector.accepts "a.js:1//b:2.js".toList = true := by
    cases built
    decide +kernel
  exact ⟨selector, built, uncoloned, accepted, accepted', by decide +kernel,
    (sourceLocation_eq_iff built uncoloned accepted accepted' (some 1) none).1⟩

end MessageHarvest
