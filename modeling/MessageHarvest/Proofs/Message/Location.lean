import MessageHarvest.Message.Location
import Mathlib.Data.List.Infix

namespace MessageHarvest

def pathSegments (path : Text) : List Text :=
  (path.splitOnP isSeparator).filter fun segment => !segment.isEmpty

def leads (path : Text) : Bool := path.head?.any isSeparator

def trails (path : Text) : Bool := path.getLast?.any isSeparator

def pathOf (leading : Bool) (segments : List Text) (trailing : Bool) : Text :=
  (if leading then ['/'] else []) ++ Text.join ['/'] segments ++
    (if trailing && !segments.isEmpty then ['/'] else [])

variable {c d : Char} {path rest : Text}

theorem isSeparator_iff : isSeparator c = true ↔ c = '/' ∨ c = '\\' := by
  simp [isSeparator]

@[simp] theorem isSeparator_slash : isSeparator '/' = true := by decide

section Segments

theorem pathSegments_separator (separator : isSeparator c = true) (rest : Text) :
    pathSegments (c :: rest) = pathSegments rest := by
  rw [pathSegments, List.splitOnP_cons_eq_if_modifyHead, if_pos separator]
  rfl

theorem pathSegments_singleton (plain : isSeparator c = false) : pathSegments [c] = [[c]] := by
  simp [pathSegments, List.splitOnP_cons_eq_if_modifyHead, plain]

theorem pathSegments_last (plain : isSeparator c = false) (separator : isSeparator d = true)
    (rest : Text) : pathSegments (c :: d :: rest) = [c] :: pathSegments (d :: rest) := by
  simp [pathSegments, List.splitOnP_cons_eq_if_modifyHead, plain, separator]

theorem pathSegments_more (plain : isSeparator c = false) (plain' : isSeparator d = false)
    (rest : Text) : ∃ segment segments, pathSegments (d :: rest) = segment :: segments ∧
      pathSegments (c :: d :: rest) = (c :: segment) :: segments := by
  obtain ⟨first, others, split⟩ :=
    List.exists_cons_of_ne_nil (List.splitOnP_ne_nil isSeparator rest)
  refine ⟨d :: first, others.filter fun segment => !segment.isEmpty, ?_, ?_⟩ <;>
    simp [pathSegments, List.splitOnP_cons_eq_if_modifyHead, plain, plain', split]

theorem trails_cons_cons (c d : Char) (rest : Text) :
    trails (c :: d :: rest) = trails (d :: rest) := by
  rw [trails, List.getLast?_cons_cons, trails]

theorem trails_cons_congr (same : isSeparator c = isSeparator d) (rest : Text) :
    trails (c :: rest) = trails (d :: rest) := by
  cases rest with
  | nil => simp [trails, same]
  | cons e rest => rw [trails_cons_cons, trails_cons_cons]

theorem leads_iff : leads path = true ↔ path.head? = some '/' ∨ path.head? = some '\\' := by
  simp [leads, Option.any_eq_true, isSeparator_iff, and_or_left, exists_or]

theorem trails_iff :
    trails path = true ↔ path.getLast? = some '/' ∨ path.getLast? = some '\\' := by
  simp [trails, Option.any_eq_true, isSeparator_iff, and_or_left, exists_or]

/-- Whether a segment goes on behind a character shows only at the next one. -/
@[elab_as_elim]
theorem path_induction {motive : Text → Prop} (nil : motive [])
    (separator : ∀ c rest, isSeparator c = true → motive rest → motive (c :: rest))
    (single : ∀ c, isSeparator c = false → motive [c])
    (last : ∀ c d rest, isSeparator c = false → isSeparator d = true → motive (d :: rest) →
      motive (c :: d :: rest))
    (more : ∀ c d rest, isSeparator c = false → isSeparator d = false → motive (d :: rest) →
      motive (c :: d :: rest))
    (path : Text) : motive path := by
  induction path with
  | nil => exact nil
  | cons c rest ih =>
    cases first : isSeparator c with
    | true => exact separator c rest first ih
    | false =>
      cases rest with
      | nil => exact single c first
      | cons d rest =>
        cases second : isSeparator d with
        | true => exact last c d rest first second ih
        | false => exact more c d rest first second ih

theorem trails_of_pathSegments_eq_nil (nonempty : path ≠ []) (none : pathSegments path = []) :
    trails path = true := by
  induction path using path_induction with
  | nil => exact absurd rfl nonempty
  | separator c rest separator ih =>
    cases rest with
    | nil => exact separator
    | cons d rest =>
      rw [pathSegments_separator separator] at none
      rw [trails_cons_cons]
      exact ih (List.cons_ne_nil _ _) none
  | single c plain =>
    rw [pathSegments_singleton plain] at none
    cases none
  | last c d rest plain separator =>
    rw [pathSegments_last plain separator] at none
    cases none
  | more c d rest plain plain' =>
    obtain ⟨segment, segments, -, more⟩ := pathSegments_more plain plain' rest
    rw [more] at none
    cases none

end Segments

section Collapse

theorem collapse_separator (separator : isSeparator c = true) (rest : Text) :
    collapseSeparators false (c :: rest) = '/' :: collapseSeparators true rest := by
  rw [collapseSeparators, if_pos separator, if_neg Bool.false_ne_true]

theorem collapse_again (separator : isSeparator c = true) (rest : Text) :
    collapseSeparators true (c :: rest) = collapseSeparators true rest := by
  rw [collapseSeparators, if_pos separator, if_pos rfl]

theorem collapse_plain (plain : isSeparator c = false) (inRun : Bool) (rest : Text) :
    collapseSeparators inRun (c :: rest) = c :: collapseSeparators false rest := by
  rw [collapseSeparators, if_neg (by simp [plain])]

theorem collapse_eq (path : Text) :
    collapseSeparators true path = pathOf false (pathSegments path) (trails path) := by
  induction path using path_induction with
  | nil => rfl
  | separator c rest separator ih =>
    rw [collapse_again separator, ih, pathSegments_separator separator]
    cases rest with
    | nil => simp [pathOf, pathSegments]
    | cons d rest => rw [trails_cons_cons]
  | single c plain =>
    rw [collapse_plain plain, pathSegments_singleton plain]
    simp [collapseSeparators, pathOf, Text.join, trails, plain]
  | last c d rest plain separator ih =>
    rw [collapse_plain plain, collapse_separator separator, ← collapse_again separator, ih,
      pathSegments_last plain separator, trails_cons_cons]
    cases segments : pathSegments (d :: rest) with
    | nil =>
      have ends := trails_of_pathSegments_eq_nil (List.cons_ne_nil d rest) segments
      simp [pathOf, Text.join, ends]
    | cons segment segments => simp [pathOf, Text.join]
  | more c d rest plain plain' ih =>
    obtain ⟨segment, segments, first, more⟩ := pathSegments_more plain plain' rest
    rw [collapse_plain plain, collapse_plain plain', ← collapse_plain plain' true, ih, first, more,
      trails_cons_cons]
    cases segments <;> simp [pathOf, Text.join]

theorem normalizePath_eq (path : Text) :
    normalizePath path = pathOf (leads path) (pathSegments path) (trails path) := by
  cases path with
  | nil => rfl
  | cons c rest =>
    have behind := collapse_eq (c :: rest)
    cases separator : isSeparator c with
    | true =>
      rw [collapse_again separator] at behind
      rw [normalizePath, collapse_separator separator, behind]
      simp [pathOf, leads, separator]
    | false =>
      rw [collapse_plain separator, ← collapse_plain separator false] at behind
      rw [normalizePath, behind]
      simp [pathOf, leads, separator]

theorem pathSegments_collapse (inRun : Bool) (path : Text) :
    pathSegments (collapseSeparators inRun path) = pathSegments path := by
  induction path using path_induction generalizing inRun with
  | nil => rfl
  | separator c rest separator ih =>
    rw [pathSegments_separator separator]
    cases inRun with
    | true => rw [collapse_again separator, ih]
    | false => rw [collapse_separator separator, pathSegments_separator isSeparator_slash, ih]
  | single c plain => rw [collapse_plain plain, collapseSeparators]
  | last c d rest plain separator ih =>
    have inner := ih false
    rw [collapse_separator separator] at inner
    rw [collapse_plain plain, collapse_separator separator,
      pathSegments_last plain isSeparator_slash, inner, pathSegments_last plain separator]
  | more c d rest plain plain' ih =>
    have inner := ih false
    rw [collapse_plain plain'] at inner
    rw [collapse_plain plain, collapse_plain plain']
    obtain ⟨segment, segments, first, more⟩ := pathSegments_more plain plain' rest
    obtain ⟨segment', segments', first', more'⟩ :=
      pathSegments_more plain plain' (collapseSeparators false rest)
    rw [first, first'] at inner
    obtain ⟨rfl, rfl⟩ := List.cons.inj inner
    rw [more, more']

/-- In a run, nothing is written until the run ends. -/
theorem unrepeated_collapse (inRun : Bool) (path : Text) :
    ¬ ['/', '/'] <:+: collapseSeparators inRun path ∧
      (inRun = true → (collapseSeparators inRun path).head? ≠ some '/') := by
  induction path generalizing inRun with
  | nil => simp [collapseSeparators]
  | cons c rest ih =>
    cases separator : isSeparator c with
    | true =>
      obtain ⟨single, other⟩ := ih true
      cases inRun with
      | true =>
        rw [collapse_again separator]
        exact ⟨single, other⟩
      | false =>
        rw [collapse_separator separator, List.infix_cons_iff, List.cons_prefix_cons]
        refine ⟨?_, fun within => absurd within Bool.false_ne_true⟩
        rintro (⟨-, behind⟩ | inside)
        · obtain ⟨after, whole⟩ := behind
          exact other rfl (by rw [← whole]; rfl)
        · exact single inside
    | false =>
      have unslashed : c ≠ '/' := by
        rintro rfl
        cases separator
      rw [collapse_plain separator, List.infix_cons_iff, List.cons_prefix_cons]
      refine ⟨?_, by simp [unslashed]⟩
      rintro (⟨same, -⟩ | inside)
      · exact unslashed same.symm
      · exact (ih false).1 inside

theorem trails_collapse (c : Char) (rest : Text) :
    trails (c :: collapseSeparators (isSeparator c) rest) = trails (c :: rest) := by
  induction rest generalizing c with
  | nil => rfl
  | cons d rest ih =>
    rw [trails_cons_cons]
    cases separator : isSeparator d with
    | true =>
      rw [← ih d, separator]
      cases separator' : isSeparator c with
      | true =>
        rw [collapse_again separator]
        exact trails_cons_congr (separator'.trans separator.symm) _
      | false =>
        rw [collapse_separator separator, trails_cons_cons]
        exact trails_cons_congr (isSeparator_slash.trans separator.symm) _
    | false => rw [collapse_plain separator, trails_cons_cons, ← ih d, separator]

end Collapse

section Normalized

theorem leads_normalizePath (path : Text) : leads (normalizePath path) = leads path := by
  cases path with
  | nil => rfl
  | cons c rest =>
    cases separator : isSeparator c with
    | true =>
      rw [normalizePath, collapse_separator separator]
      exact separator.symm
    | false =>
      rw [normalizePath, collapse_plain separator]
      rfl

theorem trails_normalizePath (path : Text) : trails (normalizePath path) = trails path := by
  cases path with
  | nil => rfl
  | cons c rest =>
    rw [← trails_collapse c rest]
    cases separator : isSeparator c with
    | true =>
      rw [normalizePath, collapse_separator separator]
      exact trails_cons_congr (isSeparator_slash.trans separator.symm) _
    | false => rw [normalizePath, collapse_plain separator]

theorem pathSegments_normalizePath (path : Text) :
    pathSegments (normalizePath path) = pathSegments path :=
  pathSegments_collapse false path

theorem not_mem_normalizePath (path : Text) : '\\' ∉ normalizePath path :=
  not_mem_collapseSeparators false path

theorem head_normalizePath (path : Text) : (normalizePath path).head? = some '/' ↔
    path.head? = some '/' ∨ path.head? = some '\\' := by
  rw [← leads_iff, ← leads_normalizePath, leads_iff, iff_self_or]
  exact fun backslash => absurd (List.mem_of_head? backslash) (not_mem_normalizePath path)

theorem getLast_normalizePath (path : Text) : (normalizePath path).getLast? = some '/' ↔
    path.getLast? = some '/' ∨ path.getLast? = some '\\' := by
  rw [← trails_iff, ← trails_normalizePath, trails_iff, iff_self_or]
  exact fun backslash => absurd (List.mem_of_getLast? backslash) (not_mem_normalizePath path)

theorem normalizePath_eq_iff (path other : Text) : normalizePath path = normalizePath other ↔
    pathSegments path = pathSegments other ∧ leads path = leads other ∧
      trails path = trails other := by
  constructor
  · intro same
    refine ⟨?_, ?_, ?_⟩
    · rw [← pathSegments_normalizePath path, same, pathSegments_normalizePath]
    · rw [← leads_normalizePath path, same, leads_normalizePath]
    · rw [← trails_normalizePath path, same, trails_normalizePath]
  · rintro ⟨segments, leading, trailing⟩
    rw [normalizePath_eq, normalizePath_eq other, segments, leading, trailing]

theorem normalizePath_idem (path : Text) :
    normalizePath (normalizePath path) = normalizePath path :=
  (normalizePath_eq_iff _ _).mpr
    ⟨pathSegments_normalizePath path, leads_normalizePath path, trails_normalizePath path⟩

/-- A normalized path has single slashes for separators, and of the path just its segments and
whether there is a separator before and after them. -/
theorem normalizePath_canonical :
    (∀ path : Text,
      '\\' ∉ normalizePath path ∧ ¬ ['/', '/'] <:+: normalizePath path ∧
      pathSegments (normalizePath path) = pathSegments path ∧
      ((normalizePath path).head? = some '/' ↔
        path.head? = some '/' ∨ path.head? = some '\\') ∧
      ((normalizePath path).getLast? = some '/' ↔
        path.getLast? = some '/' ∨ path.getLast? = some '\\') ∧
      normalizePath (normalizePath path) = normalizePath path) ∧
    ∀ path other : Text, normalizePath path = normalizePath other ↔
      pathSegments path = pathSegments other ∧ leads path = leads other ∧
        trails path = trails other :=
  ⟨fun path => ⟨not_mem_normalizePath path, (unrepeated_collapse false path).1,
    pathSegments_normalizePath path, head_normalizePath path, getLast_normalizePath path,
    normalizePath_idem path⟩, normalizePath_eq_iff⟩

end Normalized

end MessageHarvest
