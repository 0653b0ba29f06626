import MessageHarvest.Proofs.Files.Content

/-!
What is changed when a file is written: the file that the path leads to, or the one that is made
where it leads, and nothing else in the tree.
-/

namespace MessageHarvest

namespace FileNode

variable {node new : FileNode} {names others parent : List Text} {name : Text}

/-- The same node, or directories, whose entries are compared one by one. -/
inductive Same : Option FileNode → Option FileNode → Prop
  | node (found : Option FileNode) : Same found found
  | directory (entries entries' : List (Text × FileNode)) :
      Same (some (.directory entries)) (some (.directory entries'))

def IsDirectoryAt (node : FileNode) (names : List Text) : Prop :=
  ∃ entries, node.at? names = some (.directory entries)

theorem at?_append (node : FileNode) (names more : List Text) :
    node.at? (names ++ more) = (node.at? names).bind (·.at? more) := by
  induction names generalizing node with
  | nil => rfl
  | cons name names ih =>
    rw [List.cons_append, FileNode.at?, FileNode.at?, Option.bind_assoc]
    exact congrArg _ (funext fun held => ih held)

theorem exists_directory_of_child? {held : FileNode} (found : node.child? name = some held) :
    ∃ entries, node = .directory entries ∧ SortedMap.lookUp name entries = some held := by
  cases node with
  | directory entries => exact ⟨entries, rfl, found⟩
  | file | unreadable | link => cases found

theorem isDirectoryAt_of_at? {found : FileNode} {more : List Text}
    (there : node.at? (names ++ name :: more) = some found) : node.IsDirectoryAt names := by
  rw [at?_append] at there
  obtain ⟨held, here, below⟩ := Option.bind_eq_some_iff.1 there
  obtain ⟨inner, child, -⟩ := Option.bind_eq_some_iff.1 below
  obtain ⟨entries, rfl, -⟩ := exists_directory_of_child? child
  exact ⟨entries, here⟩

theorem IsDirectoryAt.of_append {more : List Text} (h : node.IsDirectoryAt (names ++ more)) :
    node.IsDirectoryAt names := by
  cases more with
  | nil => simpa using h
  | cons name more =>
    obtain ⟨entries, there⟩ := h
    exact isDirectoryAt_of_at? there

theorem IsDirectoryAt.root (h : node.IsDirectoryAt names) : node.IsDirectoryAt [] := by
  rw [← List.nil_append names] at h
  exact h.of_append

theorem at?_put_self (node new : FileNode) (names : List Text) :
    (node.put names new).at? names = some new := by
  induction names generalizing node with
  | nil => cases node <;> rfl
  | cons name names ih =>
    cases node with
    | directory entries =>
      rw [put, FileNode.at?, child?, SortedMap.lookUp_place_self]
      exact ih _
    | file | unreadable | link =>
      rw [put, FileNode.at?, child?, SortedMap.lookUp, if_pos rfl]
      · exact ih _
      · intro _ same
        cases same

theorem same_put (above : node.IsDirectoryAt parent) (new : FileNode)
    (apart : ¬ parent ++ [name] <+: others) :
    Same (node.at? others) ((node.put (parent ++ [name]) new).at? others) := by
  induction parent generalizing node others with
  | nil =>
    obtain ⟨entries, here⟩ := above
    obtain rfl := Option.some.inj here
    cases others with
    | nil => exact .directory _ _
    | cons other others =>
      have different : other ≠ name := by
        rintro rfl
        exact apart ⟨others, rfl⟩
      rw [List.nil_append, put, FileNode.at?, FileNode.at?, child?, child?,
        SortedMap.lookUp_place_of_ne _ _ different]
      exact .node _
  | cons first parent ih =>
    obtain ⟨below, there⟩ := above
    obtain ⟨held, child, inner⟩ := Option.bind_eq_some_iff.1 there
    obtain ⟨entries, rfl, found⟩ := exists_directory_of_child? child
    cases others with
    | nil => exact .directory _ _
    | cons other others =>
      rw [List.cons_append, put, FileNode.at?, FileNode.at?, child?, child?, found]
      by_cases along : other = first
      · subst along
        rw [found, SortedMap.lookUp_place_self]
        exact ih ⟨below, inner⟩ fun within => apart (List.cons_prefix_cons.2 ⟨rfl, within⟩)
      · rw [SortedMap.lookUp_place_of_ne _ _ along]
        exact .node _

end FileNode

namespace FileSystem

open FileNode (Same)

variable {files : FileSystem} {root root' : FileNode} {names here rest : List Text} {bytes : Bytes}

def IsRooted (files : FileSystem) : Prop := files.root.IsDirectoryAt files.working

inductive Aims (names : List Text) : Place → Prop
  | file (bytes : Bytes) : Aims names (.node names (.file bytes))
  | free : Aims names (.free names)

inductive Replaces (path : Text) (bytes : Bytes) (before after : FileSystem) : Prop
  | mk {names : List Text} {place : Place} (leads : before.place path = .ok place)
      (aims : Aims names place) (written : after.place path = .ok (.node names (.file bytes)))
      (working : after.working = before.working)
      (elsewhere : ∀ others, others ≠ names →
        Same (before.root.at? others) (after.root.at? others)) : Replaces path bytes before after

section Based

def Based (root : FileNode) : Progress → Prop
  | .link here _ _ => root.IsDirectoryAt here
  | .ended (.ok (.free names)) =>
      ∃ parent name, names = parent ++ [name] ∧ root.IsDirectoryAt parent ∧ root.at? names = none
  | .ended _ => True

theorem isDirectoryAt_dropLast (base : root.IsDirectoryAt here) :
    root.IsDirectoryAt here.dropLast := by
  rcases List.eq_nil_or_concat here with rfl | ⟨front, last, rfl⟩
  · exact base
  · rw [List.concat_eq_append] at base ⊢
    rw [List.dropLast_concat]
    exact base.of_append

theorem based_advance (base : root.IsDirectoryAt here) (path : List Text) :
    Based root (advance root here path) := by
  fun_induction advance root here path with
  | case3 here rest ih => exact ih (isDirectoryAt_dropLast base)
  | case4 here name rest onwards missing last => exact ⟨here, name, rfl, base, missing⟩
  | case6 here name rest onwards target found => exact base
  | case7 here name rest onwards entries found ih => exact ih ⟨entries, found⟩
  | case1 | case2 | case5 | case8 | case9 => trivial

theorem based_follow (base : root.IsDirectoryAt here) (links : Nat) (path : List Text) :
    Based root (.ended (follow root links here path)) := by
  fun_induction follow root links here path with
  | case1 links here path place came =>
    have met := based_advance base path
    rwa [came] at met
  | case2 => trivial
  | case3 here path here' target rest came links ih =>
    have met := based_advance base path
    rw [came] at met
    apply ih
    split
    · exact met.root
    · exact met

end Based

section After

/-- What following a path comes to in the tree before and after the file is written, where it comes to
the file or to a link. -/
inductive Meets (names : List Text) (bytes : Bytes) : Progress → Progress → Prop
  | file {place : Place} (aims : Aims names place) :
      Meets names bytes (.ended (.ok place)) (.ended (.ok (.node names (.file bytes))))
  | link {here rest : List Text} {target : Text} :
      Meets names bytes (.link here target rest) (.link here target rest)

variable {met : Progress} {place : Place}
  (vacant : ∀ found, root.at? names = some found → ∃ old, found = .file old)
  (content : root'.at? names = some (.file bytes))
  (elsewhere : ∀ others, others ≠ names → Same (root.at? others) (root'.at? others))

include vacant content elsewhere

theorem advance_after {path : List Text}
    (meets : Meets names bytes (advance root here path) met) : advance root' here path = met := by
  -- a link or a directory on the way is not at the place of the file, so it is met again
  have unchanged {others : List Text} {found : FileNode} (there : root.at? others = some found)
      (other : ∀ old, found ≠ .file old) : Same (some found) (root'.at? others) := by
    rw [← there]
    refine elsewhere others fun same => ?_
    rw [same] at there
    obtain ⟨old, file⟩ := vacant found there
    exact other old file
  fun_induction advance root here path with
  | case1 here held found =>
    cases meets with
    | file aims =>
      cases aims
      simp only [advance, content]
  | case3 here rest ih =>
    rw [advance, if_pos rfl]
    exact ih meets
  | case4 here name rest onwards missing last =>
    cases meets with
    | file aims =>
      cases aims
      simp only [advance, if_neg onwards, content, if_pos last]
  | case6 here name rest onwards target found =>
    have again := unchanged found nofun
    cases meets with
    | link =>
      rw [advance, if_neg onwards]
      generalize root'.at? (here ++ [name]) = met' at again ⊢
      cases again
      rfl
  | case7 here name rest onwards entries found ih =>
    have again := unchanged found nofun
    have further := ih meets
    rw [advance, if_neg onwards]
    generalize root'.at? (here ++ [name]) = met' at again ⊢
    cases again <;> exact further
  | case8 here name rest onwards held noLink noDirectory found last =>
    cases meets with
    | file aims =>
      cases aims
      simp only [advance, if_neg onwards, content, if_pos last]
  | case2 | case5 | case9 => cases meets

theorem follow_after {links : Nat} {path : List Text}
    (leads : follow root links here path = .ok place) (aims : Aims names place) :
    follow root' links here path = .ok (.node names (.file bytes)) := by
  fun_induction follow root links here path with
  | case1 links here path found came =>
    subst leads
    have after : advance root' here path = .ended (.ok (.node names (.file bytes))) :=
      advance_after vacant content elsewhere (by rw [came]; exact .file aims)
    exact follow_of_ended after
  | case2 => cases leads
  | case3 here path here' target rest came links ih =>
    have after : advance root' here path = .link here' target rest :=
      advance_after vacant content elsewhere (by rw [came]; exact .link)
    rw [follow_of_link after]
    exact ih leads

end After

section Place

variable {path : Text} {place : Place} {after : FileSystem}

theorem place_eq_ok_iff : files.place path = .ok place ↔
    path.isEmpty = false ∧ ∃ found,
      follow files.root linkLimit (if Path.isAbsolute path then [] else files.working)
        (Path.components path) = .ok found ∧ ended path found = .ok place := by
  unfold FileSystem.place
  cases path.isEmpty with
  | true => simp
  | false =>
    simp only [Bool.false_eq_true, if_false, true_and]
    split <;> simp_all

theorem ended_eq_ok {found : Place} (leads : ended path found = .ok place) : found = place := by
  cases found with
  | free here => exact Except.ok.inj leads
  | node here node =>
    rcases ended_node path here node with kept | kept
    · exact Except.ok.inj (kept.symm.trans leads)
    · cases kept.symm.trans leads

theorem above_of_aims (rooted : files.IsRooted) (leads : files.place path = .ok place)
    (aims : Aims names place) :
    ∃ parent name, names = parent ++ [name] ∧ files.root.IsDirectoryAt parent ∧
      ∀ found, files.root.at? names = some found → ∃ old, found = .file old := by
  cases aims with
  | file old =>
    have there := at?_of_place leads
    obtain ⟨entries, root⟩ := rooted.root
    rcases List.eq_nil_or_concat names with rfl | ⟨parent, name, rfl⟩
    · cases root.symm.trans there
    · rw [List.concat_eq_append] at there ⊢
      refine ⟨parent, name, rfl, FileNode.isDirectoryAt_of_at? there, fun found same => ?_⟩
      exact ⟨old, Option.some.inj (same.symm.trans there)⟩
  | free =>
    obtain ⟨-, found, followed, ended⟩ := place_eq_ok_iff.1 leads
    obtain rfl := ended_eq_ok ended
    have base : files.root.IsDirectoryAt
        (if Path.isAbsolute path then [] else files.working) := by
      split
      · exact rooted.root
      · exact rooted
    have based := based_follow base linkLimit (Path.components path)
    rw [followed] at based
    obtain ⟨parent, name, same, above, missing⟩ := based
    refine ⟨parent, name, same, above, fun found there => ?_⟩
    rw [missing] at there
    cases there

theorem replaces_of_put (rooted : files.IsRooted) (leads : files.place path = .ok place)
    (aims : Aims names place) (named : Path.wantsDirectory path = false) (bytes : Bytes) :
    Replaces path bytes files { files with root := files.root.put names (.file bytes) } := by
  obtain ⟨parent, name, rfl, above, vacant⟩ := above_of_aims rooted leads aims
  have content := FileNode.at?_put_self files.root (.file bytes) (parent ++ [name])
  have elsewhere (others : List Text) (other : others ≠ parent ++ [name]) :
      Same (files.root.at? others)
        ((files.root.put (parent ++ [name]) (.file bytes)).at? others) := by
    by_cases below : parent ++ [name] <+: others
    · -- below a file there is nothing, neither before nor after
      obtain ⟨more, rfl⟩ := below
      obtain ⟨first, more, rfl⟩ := List.exists_cons_of_ne_nil fun none : more = [] =>
        other (by rw [none, List.append_nil])
      have missing : files.root.at? (parent ++ [name] ++ first :: more) = none := by
        rw [FileNode.at?_append]
        cases there : files.root.at? (parent ++ [name]) with
        | none => rfl
        | some found =>
          obtain ⟨old, rfl⟩ := vacant found there
          rfl
      rw [missing, FileNode.at?_append, content]
      exact .node none
    · exact FileNode.same_put above _ below
  refine .mk leads aims ?_ rfl elsewhere
  obtain ⟨some, found, followed, ended⟩ := place_eq_ok_iff.1 leads
  obtain rfl := ended_eq_ok ended
  refine place_eq_ok_iff.2 ⟨some, _, follow_after vacant content elsewhere followed aims, ?_⟩
  rw [FileSystem.ended, named]
  · rfl
  · intro _ same
    cases same

theorem named_of_file {old : Bytes} (leads : files.place path = .ok (.node names (.file old))) :
    Path.wantsDirectory path = false := by
  obtain ⟨-, found, -, ended⟩ := place_eq_ok_iff.1 leads
  obtain rfl := ended_eq_ok ended
  rw [← Bool.not_eq_true]
  intro wanted
  rw [FileSystem.ended, if_pos wanted] at ended
  · cases ended
  · intro _ same
    cases same

theorem replaces_of_write (rooted : files.IsRooted)
    (wrote : files.write path bytes = .ok after) : Replaces path bytes files after := by
  unfold write at wrote
  split at wrote
  · rename_i leads
    cases wrote
    exact replaces_of_put rooted leads (.file _) (named_of_file leads) bytes
  · cases wrote
  · cases wrote
  · rename_i leads
    split at wrote
    · cases wrote
    · rename_i named
      cases wrote
      exact replaces_of_put rooted leads .free (by simpa using named) bytes
  · cases wrote

end Place

end FileSystem

end MessageHarvest
