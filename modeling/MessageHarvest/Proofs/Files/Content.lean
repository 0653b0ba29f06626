import MessageHarvest.Files.Selection

/-!
Two trees that differ in what one file holds. Every path leads to the same place in both, so the
same files are selected, and all but that one are read alike.
-/

namespace MessageHarvest

namespace FileNode

inductive IsRegular : FileNode → Prop
  | file (bytes : Bytes) : IsRegular (.file bytes)
  | unreadable : IsRegular .unreadable

inductive Rewritten (old new : FileNode) : List Text → FileNode → FileNode → Prop
  | here : Rewritten old new [] old new
  | inside {name : Text} {names : List Text} {before after : List (Text × FileNode)}
      {held changed : FileNode} (fresh : ∀ entry ∈ before, entry.1 ≠ name)
      (inner : Rewritten old new names held changed) :
      Rewritten old new (name :: names) (.directory (before ++ (name, held) :: after))
        (.directory (before ++ (name, changed) :: after))

variable {old new : FileNode}

section LookUp

variable {before after : List (Text × FileNode)} {name other : Text} {held changed : FileNode}

theorem lookUp_append_self (fresh : ∀ entry ∈ before, entry.1 ≠ name) :
    SortedMap.lookUp name (before ++ (name, held) :: after) = some held := by
  induction before with
  | nil => simp [SortedMap.lookUp]
  | cons head before ih =>
    obtain ⟨first, others⟩ := List.forall_mem_cons.1 fresh
    rw [List.cons_append, SortedMap.lookUp, if_neg (Ne.symm first)]
    exact ih others

theorem lookUp_append_of_ne (different : other ≠ name) :
    SortedMap.lookUp other (before ++ (name, held) :: after) =
      SortedMap.lookUp other (before ++ (name, changed) :: after) := by
  induction before with
  | nil => simp [SortedMap.lookUp, different]
  | cons head before ih =>
    simp only [List.cons_append, SortedMap.lookUp, ih]

end LookUp

/-- What stands at a path in both trees: the same, unless the path goes towards the file. -/
inductive Alike (old new : FileNode) (names path : List Text) :
    Option FileNode → Option FileNode → Prop
  | same {found : Option FileNode} (apart : ¬ path <+: names) : Alike old new names path found found
  | towards {rest : List Text} {held changed : FileNode} (leads : path ++ rest = names)
      (inner : Rewritten old new rest held changed) :
      Alike old new names path (some held) (some changed)

theorem Alike.cons {names path : List Text} {found found' : Option FileNode} (name : Text)
    (h : Alike old new names path found found') :
    Alike old new (name :: names) (name :: path) found found' := by
  cases h with
  | same apart => exact .same fun along => apart (List.cons_prefix_cons.1 along).2
  | towards leads inner => exact .towards (congrArg (name :: ·) leads) inner

theorem at?_of_isRegular {node : FileNode} (regular : node.IsRegular) (name : Text)
    (path : List Text) : node.at? (name :: path) = none := by
  cases regular <;> rfl

theorem Rewritten.at? {names : List Text} {node changed : FileNode}
    (h : Rewritten old new names node changed) (regular : old.IsRegular)
    (regular' : new.IsRegular) (path : List Text) :
    Alike old new names path (node.at? path) (changed.at? path) := by
  induction h generalizing path with
  | here =>
    cases path with
    | nil => exact .towards rfl .here
    | cons name path =>
      rw [at?_of_isRegular regular, at?_of_isRegular regular']
      exact .same (by simp)
  | @inside name names before after held changed fresh inner ih =>
    cases path with
    | nil => exact .towards rfl (.inside fresh inner)
    | cons other path =>
      simp only [FileNode.at?, child?]
      by_cases same : other = name
      · subst same
        rw [lookUp_append_self fresh, lookUp_append_self fresh]
        exact (ih path).cons other
      · rw [lookUp_append_of_ne same]
        exact .same fun along => same (List.cons_prefix_cons.1 along).1

theorem exists_append_of_lookUp {name : Text} {held : FileNode} {entries : List (Text × FileNode)}
    (found : SortedMap.lookUp name entries = some held) :
    ∃ before after, entries = before ++ (name, held) :: after ∧
      ∀ entry ∈ before, entry.1 ≠ name := by
  induction entries with
  | nil => cases found
  | cons head rest ih =>
    by_cases same : name = head.1
    · rw [SortedMap.lookUp, if_pos same] at found
      cases found
      exact ⟨[], rest, by rw [same]; rfl, by simp⟩
    · rw [SortedMap.lookUp, if_neg same] at found
      obtain ⟨before, after, rfl, fresh⟩ := ih found
      exact ⟨head :: before, after, rfl, List.forall_mem_cons.2 ⟨Ne.symm same, fresh⟩⟩

theorem exists_rewritten {names : List Text} {node : FileNode} (found : node.at? names = some old)
    (new : FileNode) : ∃ changed, Rewritten old new names node changed := by
  induction names generalizing node with
  | nil =>
    cases found
    exact ⟨new, .here⟩
  | cons name names ih =>
    obtain ⟨held, inside, below⟩ := Option.bind_eq_some_iff.1 found
    cases node with
    | directory entries =>
      obtain ⟨changed, inner⟩ := ih below
      obtain ⟨before, after, rfl, fresh⟩ := exists_append_of_lookUp inside
      exact ⟨_, .inside fresh inner⟩
    | file => cases inside
    | unreadable => cases inside
    | link => cases inside

theorem go_append (path : Text) (entries more : List (Text × FileNode)) :
    depthFirst.go path (entries ++ more) =
      depthFirst.go path entries ++ depthFirst.go path more := by
  induction entries with
  | nil => rfl
  | cons entry entries ih =>
    simp only [List.cons_append, depthFirst.go, ih, List.append_assoc]

theorem depthFirst_of_isRegular {node : FileNode} (regular : node.IsRegular) (path : Text) :
    node.depthFirst path = [path] := by
  cases regular <;> rfl

theorem Rewritten.depthFirst {names : List Text} {node changed : FileNode}
    (h : Rewritten old new names node changed) (regular : old.IsRegular)
    (regular' : new.IsRegular) (path : Text) :
    node.depthFirst path = changed.depthFirst path := by
  induction h generalizing path with
  | here => rw [depthFirst_of_isRegular regular, depthFirst_of_isRegular regular']
  | inside fresh inner ih => simp only [FileNode.depthFirst, go_append, FileNode.depthFirst.go, ih]

end FileNode

namespace FileSystem

open FileNode (Rewritten)

variable {old new : FileNode}

/-- Where a path leads in both trees: to the same place, or to a node on the way to the file. -/
inductive SamePlace (old new : FileNode) (names : List Text) :
    Except FileError Place → Except FileError Place → Prop
  | same {place : Except FileError Place} (apart : ∀ found, place ≠ .ok (.node names found)) :
      SamePlace old new names place place
  | towards {here rest : List Text} {held changed : FileNode} (leads : here ++ rest = names)
      (inner : Rewritten old new rest held changed) :
      SamePlace old new names (.ok (.node here held)) (.ok (.node here changed))

theorem SamePlace.error {names : List Text} (error : FileError) :
    SamePlace old new names (.error error) (.error error) :=
  .same fun _ leads => nomatch leads

inductive SameProgress (old new : FileNode) (names : List Text) : Progress → Progress → Prop
  | ended {place place' : Except FileError Place} (same : SamePlace old new names place place') :
      SameProgress old new names (.ended place) (.ended place')
  | link {here rest : List Text} {target : Text} :
      SameProgress old new names (.link here target rest) (.link here target rest)

theorem SameProgress.last {names here : List Text} {node node' : FileNode} (rest : List Text)
    (same : SamePlace old new names (.ok (.node here node)) (.ok (.node here node'))) :
    SameProgress old new names
      (if rest.isEmpty then .ended (.ok (.node here node)) else .ended (.error .notDirectory))
      (if rest.isEmpty then .ended (.ok (.node here node'))
        else .ended (.error .notDirectory)) := by
  split
  · exact .ended same
  · exact .ended (.error _)

theorem samePlace_of_apart {names here : List Text} (apart : ¬ here <+: names) (node : FileNode) :
    SamePlace old new names (.ok (.node here node)) (.ok (.node here node)) := by
  refine .same fun found leads => ?_
  cases leads
  exact apart (List.prefix_refl _)

section Links

variable {root : FileNode} {links : Nat} {here here' path rest : List Text} {target : Text}

theorem follow_of_ended {place : Except FileError Place}
    (met : advance root here path = .ended place) : follow root links here path = place := by
  unfold follow
  rw [met]

theorem follow_of_link (met : advance root here path = .link here' target rest) :
    follow root (links + 1) here path =
      follow root links (if Path.isAbsolute target then [] else here')
        (Path.components target ++ rest) := by
  rw [follow.eq_def root (links + 1)]
  simp only [met]

theorem follow_of_last_link (met : advance root here path = .link here' target rest) :
    follow root 0 here path = .error .linkLoop := by
  unfold follow
  rw [met]

end Links

section Following

variable {names : List Text} {root root' : FileNode} (h : Rewritten old new names root root')
  (regular : old.IsRegular) (regular' : new.IsRegular)

include h regular regular'

theorem advance_alike (here path : List Text) :
    SameProgress old new names (advance root here path) (advance root' here path) := by
  induction path generalizing here with
  | nil =>
    unfold advance
    have alike := h.at? regular regular' here
    generalize root.at? here = held, root'.at? here = changed at alike ⊢
    cases alike with
    | same apart =>
      cases held with
      | none => exact .ended (.error _)
      | some node => exact .ended (samePlace_of_apart apart node)
    | towards leads inner => exact .ended (.towards leads inner)
  | cons name rest ih =>
    unfold advance
    by_cases upwards : name = ['.', '.']
    · simpa only [if_pos upwards] using ih here.dropLast
    · simp only [if_neg upwards]
      have alike := h.at? regular regular' (here ++ [name])
      generalize root.at? (here ++ [name]) = held, root'.at? (here ++ [name]) = changed at alike ⊢
      cases alike with
      | same apart =>
        cases held with
        | none =>
          dsimp only
          split
          · exact .ended (.same fun _ leads => nomatch leads)
          · exact .ended (.error _)
        | some node =>
          cases node with
          | link target => exact .link
          | directory entries => exact ih (here ++ [name])
          | file bytes => exact .last rest (samePlace_of_apart apart _)
          | unreadable => exact .last rest (samePlace_of_apart apart _)
      | towards leads inner =>
        cases inner with
        | inside fresh inner => exact ih (here ++ [name])
        | here =>
          -- the file itself, in each of its two forms before and after
          have file : SamePlace old new names (.ok (.node (here ++ [name]) old))
              (.ok (.node (here ++ [name]) new)) := .towards leads .here
          have last := SameProgress.last rest file
          cases regular <;> cases regular' <;> exact last

theorem follow_alike (links : Nat) (here path : List Text) :
    SamePlace old new names (follow root links here path) (follow root' links here path) := by
  fun_induction follow root links here path with
  | case1 links here path place met =>
    have alike := advance_alike h regular regular' here path
    rw [met] at alike
    generalize met' : advance root' here path = progress at alike
    cases alike with
    | ended same => rwa [follow_of_ended met']
  | case2 here path here' target rest met =>
    have alike := advance_alike h regular regular' here path
    rw [met] at alike
    generalize met' : advance root' here path = progress at alike
    cases alike with
    | link =>
      rw [follow_of_last_link met']
      exact .error _
  | case3 here path here' target rest met links ih =>
    have alike := advance_alike h regular regular' here path
    rw [met] at alike
    generalize met' : advance root' here path = progress at alike
    cases alike with
    | link => rwa [follow_of_link met']

end Following

structure Rewrites (names : List Text) (new : FileNode) (files files' : FileSystem) : Prop where
  root : ∃ old : FileNode, old.IsRegular ∧ Rewritten old new names files.root files'.root
  regular : new.IsRegular
  working : files'.working = files.working

variable {names : List Text} {files files' : FileSystem}

theorem exists_rewrites (found : files.root.at? names = some old) (regular : old.IsRegular)
    (regular' : new.IsRegular) : ∃ files', Rewrites names new files files' := by
  obtain ⟨changed, rewritten⟩ := FileNode.exists_rewritten found new
  exact ⟨⟨changed, files.working⟩, ⟨old, regular, rewritten⟩, regular', rfl⟩

/-- The names of the file that a path leads to, whatever links are on the way. -/
def Leads (files : FileSystem) (path : Text) (names : List Text) : Prop :=
  ∃ node, files.place path = .ok (.node names node)

theorem ended_node (path : Text) (here : List Text) (node : FileNode) :
    ended path (.node here node) = .ok (.node here node) ∨
      ended path (.node here node) = .error .notDirectory := by
  cases node with
  | directory entries => exact .inl rfl
  | file bytes => simp only [ended]; split <;> simp
  | unreadable => simp only [ended]; split <;> simp
  | link target => simp only [ended]; split <;> simp

theorem ended_alike (path : Text) {place place' : Place} (regular : old.IsRegular)
    (regular' : new.IsRegular) (alike : SamePlace old new names (.ok place) (.ok place')) :
    SamePlace old new names (ended path place) (ended path place') := by
  cases alike with
  | same apart =>
    refine .same fun found leads => ?_
    cases place with
    | free here => cases leads
    | node here node =>
      have here_ne : here ≠ names := fun same => apart node (by rw [same])
      rcases ended_node path here node with kept | kept
      · cases kept.symm.trans leads
        exact here_ne rfl
      · cases kept.symm.trans leads
  | @towards here rest held changed leads inner =>
    cases inner with
    | inside fresh inner => exact .towards leads (.inside fresh inner)
    | here =>
      have last : SamePlace old new names
          (if Path.wantsDirectory path then .error .notDirectory else .ok (.node here old))
          (if Path.wantsDirectory path then .error .notDirectory else .ok (.node here new)) := by
        split
        · exact .error _
        · exact .towards leads .here
      cases regular <;> cases regular' <;> exact last

theorem at?_of_advance {root : FileNode} {here path : List Text} {node : FileNode}
    (leads : advance root here path = .ended (.ok (.node names node))) :
    root.at? names = some node := by
  fun_induction advance root here path with
  | case1 here held found =>
    cases leads
    exact found
  | case3 here rest ih => exact ih leads
  | case7 here name rest onwards entries found ih => exact ih leads
  | case8 here name rest onwards held noLink noDirectory found =>
    cases leads
    exact found
  | case2 | case4 | case5 | case6 | case9 => cases leads

theorem at?_of_follow {root : FileNode} {links : Nat} {here path : List Text} {node : FileNode}
    (leads : follow root links here path = .ok (.node names node)) :
    root.at? names = some node := by
  fun_induction follow root links here path with
  | case1 links here path place met => exact at?_of_advance (met.trans (congrArg _ leads))
  | case2 => cases leads
  | case3 here path here' target rest met links ih => exact ih leads

theorem at?_of_place {path : Text} {node : FileNode}
    (leads : files.place path = .ok (.node names node)) : files.root.at? names = some node := by
  unfold place at leads
  split at leads
  · cases leads
  · split at leads
    · rename_i place met
      cases place with
      | free here => cases leads
      | node here held =>
        rcases ended_node path here held with kept | kept
        · cases kept.symm.trans leads
          exact at?_of_follow met
        · cases kept.symm.trans leads
    · cases leads

theorem exists_leads_of_isFile {path : Text} (file : files.isFile path = true) :
    ∃ names old, files.root.at? names = some old ∧ old.IsRegular ∧ files.Leads path names := by
  unfold isFile at file
  split at file
  · rename_i names bytes leads
    exact ⟨names, _, at?_of_place leads, .file bytes, _, leads⟩
  · rename_i names leads
    exact ⟨names, _, at?_of_place leads, .unreadable, _, leads⟩
  · cases file

theorem Rewrites.place (h : Rewrites names new files files') :
    ∃ old : FileNode, old.IsRegular ∧
      ∀ path, SamePlace old new names (files.place path) (files'.place path) := by
  obtain ⟨old, regular, rewritten⟩ := h.root
  refine ⟨old, regular, fun path => ?_⟩
  unfold FileSystem.place
  rw [h.working]
  split
  · exact .error _
  · have alike := follow_alike rewritten regular h.regular linkLimit
      (if Path.isAbsolute path then [] else files.working) (Path.components path)
    generalize follow files.root _ _ _ = met, follow files'.root _ _ _ = met' at alike ⊢
    cases met with
    | error error =>
      cases alike
      exact .error error
    | ok place =>
      cases met' with
      | error error => cases alike
      | ok place' => exact ended_alike path regular h.regular alike

def contentOf : FileNode → Except FileError Bytes
  | .file bytes => .ok bytes
  | _ => .error .unreadable

theorem Rewrites.read_of_apart (h : Rewrites names new files files') {path : Text}
    (apart : ¬ files.Leads path names) : files'.read path = files.read path := by
  obtain ⟨old, regular, alike⟩ := h.place
  have alike := alike path
  unfold read
  unfold Leads at apart
  generalize files.place path = met, files'.place path = met' at alike apart ⊢
  cases alike with
  | same => rfl
  | towards leads inner =>
    cases inner with
    | here => exact absurd ⟨old, by rw [← leads, List.append_nil]⟩ apart
    | inside fresh inner => rfl

theorem Rewrites.read_of_leads (h : Rewrites names new files files') {path : Text}
    (leads : files.Leads path names) : files'.read path = contentOf new := by
  obtain ⟨old, regular, alike⟩ := h.place
  have alike := alike path
  obtain ⟨node, at_path⟩ := leads
  unfold read
  rw [at_path] at alike
  generalize files'.place path = met' at alike ⊢
  cases alike with
  | same apart => exact absurd rfl (apart node)
  | @towards here rest _ changed leads inner =>
    have nothing_left : rest = [] := List.append_right_eq_self.1 leads
    subst nothing_left
    cases inner
    cases h.regular <;> rfl

end FileSystem

namespace Selector

open FileSystem (Rewrites)

variable {new : FileNode} {names : List Text} {files files' : FileSystem}

theorem expand?_of_rewrites (selector : Selector) (h : Rewrites names new files files')
    (resource : Text) : selector.expand? files' resource = selector.expand? files resource := by
  obtain ⟨old, regular, alike⟩ := h.place
  have alike := alike resource
  unfold expand?
  generalize files.place resource = met, files'.place resource = met' at alike ⊢
  cases alike with
  | same => rfl
  | towards leads inner =>
    have listed := inner.depthFirst regular h.regular resource
    cases inner with
    | here => cases regular <;> cases h.regular <;> rfl
    | inside => simp only [listed]

theorem select_of_rewrites (selector : Selector) (h : Rewrites names new files files')
    (resources : List Text) :
    selector.select files' resources = selector.select files resources := by
  induction resources with
  | nil => rfl
  | cons resource resources ih => simp only [select, expand?_of_rewrites selector h, ih]

end Selector

end MessageHarvest
