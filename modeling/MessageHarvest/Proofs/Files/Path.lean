import MessageHarvest.Files.Path
import MessageHarvest.Proofs.Text.Order
import Mathlib.Data.List.Induction
import Mathlib.Data.List.TakeWhile

namespace MessageHarvest.Path

def IsProper (name : Text) : Prop := isName name = true ∧ '/' ∉ name

instance (name : Text) : Decidable (IsProper name) := inferInstanceAs (Decidable (_ ∧ _))

def below (directory : Text) (names : List Text) : Text := names.foldl join directory

section Components

theorem segments_ne_nil (path : Text) : segments path ≠ [] := by
  cases path with
  | nil => exact List.cons_ne_nil _ _
  | cons c rest =>
    rw [segments]
    split
    · exact List.cons_ne_nil _ _
    · split <;> exact List.cons_ne_nil _ _

theorem segments_append (before after : Text) :
    segments (before ++ '/' :: after) = segments before ++ segments after := by
  induction before with
  | nil => rfl
  | cons c rest ih =>
    by_cases slash : c = '/'
    · rw [List.cons_append, segments, if_pos slash, segments, if_pos slash, ih, List.cons_append]
    · obtain ⟨first, others, split⟩ := List.exists_cons_of_ne_nil (segments_ne_nil rest)
      rw [List.cons_append, segments, if_neg slash, segments, if_neg slash, ih, split]
      rfl

theorem segments_of_unslashed {name : Text} (unslashed : '/' ∉ name) : segments name = [name] := by
  induction name with
  | nil => rfl
  | cons c rest ih =>
    obtain ⟨first, others⟩ := List.ne_and_not_mem_of_not_mem_cons unslashed
    rw [segments, if_neg (Ne.symm first), ih others]

theorem components_append {name : Text} (proper : IsProper name) (directory : Text) :
    components (directory ++ '/' :: name) = components directory ++ [name] := by
  rw [components, segments_append, segments_of_unslashed proper.2, List.filter_append,
    List.filter_singleton, proper.1]
  rfl

theorem components_slash (directory : Text) :
    components (directory ++ ['/']) = components directory := by
  rw [components, segments_append, List.filter_append]
  exact List.append_nil _

theorem components_join {name : Text} (proper : IsProper name) (directory : Text) :
    components (join directory name) = components directory ++ [name] := by
  rw [join]
  split
  · rename_i last
    obtain ⟨front, rfl⟩ := List.getLast?_eq_some_iff.1 last
    rw [components_slash, List.append_assoc]
    exact components_append proper front
  · exact components_append proper directory

theorem components_below {names : List Text} (proper : ∀ name ∈ names, IsProper name)
    (directory : Text) : components (below directory names) = components directory ++ names := by
  induction names generalizing directory with
  | nil => exact (List.append_nil _).symm
  | cons name names ih =>
    obtain ⟨first, others⟩ := List.forall_mem_cons.1 proper
    rw [below, List.foldl_cons, ← below, ih others, components_join first, List.append_assoc,
      List.singleton_append]

theorem map_encode_lt_map_encode {names others : List Text} (less : names < others) :
    names.map Utf8.encode < others.map Utf8.encode := by
  induction names generalizing others with
  | nil =>
    cases others with
    | nil => exact absurd less (lt_irrefl _)
    | cons other others => exact List.nil_lt_cons _ _
  | cons name names ih =>
    cases others with
    | nil => exact absurd less (List.not_lt_nil _)
    | cons other others =>
      rcases List.cons_lt_cons_iff.1 less with first | ⟨rfl, later⟩
      · exact List.cons_lt_cons_iff.2 (.inl (Utf8.encode_lt_encode first))
      · exact List.cons_lt_cons_iff.2 (.inr ⟨rfl, ih later⟩)

/-- Paths below one directory are in the order of the names that lead to them, name by name and byte
by byte. -/
theorem components_below_lt {names others : List Text} (proper : ∀ name ∈ names, IsProper name)
    (proper' : ∀ name ∈ others, IsProper name) (less : names < others) (directory : Text) :
    (components (below directory names)).map Utf8.encode <
      (components (below directory others)).map Utf8.encode := by
  rw [components_below proper, components_below proper', List.map_append, List.map_append]
  exact List.append_left_lt (map_encode_lt_map_encode less)

theorem components_of_unslashed {name : Text} (unslashed : '/' ∉ name) :
    components name = if isName name then [name] else [] := by
  rw [components, segments_of_unslashed unslashed, List.filter_singleton]
  cases isName name <;> rfl

theorem eq_dot_of_not_isName {segment : Text} (unnamed : isName segment = false) {c : Char}
    (mem : c ∈ segment) : c = '.' := by
  obtain rfl : segment = ['.'] := by simpa [isName, List.ne_nil_of_mem mem] using unnamed
  exact List.mem_singleton.1 mem

theorem exists_of_getLast?_components {path name : Text}
    (last : (components path).getLast? = some name) :
    ∃ front trail, path = front ++ name ++ trail ∧ ∀ c ∈ trail, c = '/' ∨ c = '.' := by
  -- The induction takes the path apart from behind; `after` is what has been taken off since the
  -- last slash.
  suffices general : ∀ after : Text, '/' ∉ after →
      (components (path ++ after)).getLast? = some name →
      ∃ front trail, path ++ after = front ++ name ++ trail ∧ ∀ c ∈ trail, c = '/' ∨ c = '.' by
    simpa using general [] List.not_mem_nil (by simpa using last)
  clear last
  induction path using List.reverseRecOn with
  | nil =>
    intro after unslashed last
    rw [List.nil_append, components_of_unslashed unslashed] at last
    cases named : isName after with
    | true =>
      obtain rfl : after = name := by simpa [named] using last
      exact ⟨[], [], by simp, nofun⟩
    | false => simp [named] at last
  | append_singleton path c ih =>
    intro after unslashed last
    rw [List.append_assoc, List.singleton_append] at last ⊢
    by_cases slash : c = '/'
    · subst slash
      rw [components, segments_append, List.filter_append, ← components, ← components,
        components_of_unslashed unslashed] at last
      cases named : isName after with
      | true =>
        obtain rfl : after = name := by simpa [named] using last
        exact ⟨path ++ ['/'], [], by simp, nofun⟩
      | false =>
        obtain ⟨front, trail, whole, plain⟩ :=
          ih [] List.not_mem_nil (by simpa [named] using last)
        rw [List.append_nil] at whole
        refine ⟨front, trail ++ '/' :: after, by simp [whole], fun c mem => ?_⟩
        rcases List.mem_append.1 mem with mem | mem
        · exact plain c mem
        · exact (List.mem_cons.1 mem).imp_right (eq_dot_of_not_isName named)
    · exact ih (c :: after) (by simp [Ne.symm slash, unslashed]) last

end Components

section Extension

theorem nameExtension?_eq_some_iff {name extension : Text} :
    nameExtension? name = some extension ↔
      ∃ stem, name = stem ++ '.' :: extension ∧ stem ≠ [] ∧ '.' ∉ extension := by
  constructor
  · -- the extension is what stands behind the last dot, which is the first one from behind
    intro found
    have whole := List.takeWhile_append_dropWhile (p := (· != '.')) (l := name.reverse)
    have stops := List.head?_dropWhile_not (· != '.') name.reverse
    have undotted : '.' ∉ (name.reverse.takeWhile (· != '.')).reverse := fun mem => by
      simpa using List.mem_takeWhile_imp (List.mem_reverse.1 mem)
    have lengths := congrArg List.length whole
    rw [List.length_append, List.length_reverse] at lengths
    dsimp only [nameExtension?] at found
    rw [Option.ite_none_right_eq_some] at found
    obtain ⟨longer, same⟩ := found
    obtain rfl := Option.some.inj same
    cases split : name.reverse.dropWhile (· != '.') with
    | nil =>
      rw [split, List.length_nil] at lengths
      omega
    | cons c rest =>
      rw [split] at whole stops lengths
      obtain rfl : c = '.' := by simpa using stops
      refine ⟨rest.reverse, ?_, ?_, undotted⟩
      · simpa using (congrArg List.reverse whole).symm
      · rintro none
        obtain rfl := List.reverse_eq_nil_iff.1 none
        simp only [List.length_cons, List.length_nil] at lengths
        omega
  · rintro ⟨stem, rfl, front, undotted⟩
    have reversed : (stem ++ '.' :: extension).reverse = extension.reverse ++ '.' :: stem.reverse := by
      simp
    have all (c : Char) (mem : c ∈ extension.reverse) : (c != '.') = true := by
      rw [bne_iff_ne]
      rintro rfl
      exact undotted (List.mem_reverse.1 mem)
    have taken : (extension.reverse ++ '.' :: stem.reverse).takeWhile (· != '.') =
        extension.reverse := by
      rw [List.takeWhile_append_of_pos all]
      exact List.append_nil _
    have some : 0 < stem.length := List.length_pos_iff.2 front
    rw [nameExtension?, reversed, taken, if_pos, List.reverse_reverse]
    simp only [List.length_reverse, List.length_append, List.length_cons]
    omega

end Extension

end MessageHarvest.Path
