import MessageHarvest.Proofs.Files.Path
import MessageHarvest.Proofs.Files.Selected
import MessageHarvest.Proofs.Files.Writing
import MessageHarvest.Proofs.Text.SortedMap

namespace MessageHarvest

namespace FileNode

/-- The entries of every directory have proper names, in order. -/
inductive Tidy : FileNode → Prop
  | file (bytes : Bytes) : Tidy (.file bytes)
  | unreadable : Tidy .unreadable
  | link (target : Text) : Tidy (.link target)
  | directory {entries : List (Text × FileNode)} (ascending : KeysAscend entries)
      (proper : ∀ entry ∈ entries, Path.IsProper entry.1) (inner : ∀ entry ∈ entries, entry.2.Tidy) :
      Tidy (.directory entries)

mutual

def regularNames : FileNode → List (List Text)
  | .file _ => [[]]
  | .unreadable => [[]]
  | .link _ => []
  | .directory entries => regularNamesIn entries

def regularNamesIn : List (Text × FileNode) → List (List Text)
  | [] => []
  | (name, node) :: entries => node.regularNames.map (name :: ·) ++ regularNamesIn entries

end

section Tidy

variable {node new found : FileNode} {names : List Text}

theorem Tidy.at? (tidy : node.Tidy) (there : node.at? names = some found) : found.Tidy := by
  induction names generalizing node with
  | nil =>
    cases there
    exact tidy
  | cons name names ih =>
    obtain ⟨held, child, below⟩ := Option.bind_eq_some_iff.1 there
    obtain ⟨entries, rfl, held_there⟩ := exists_directory_of_child? child
    cases tidy with
    | directory ascending proper inner =>
      obtain ⟨before, after, rfl, -⟩ := exists_append_of_lookUp held_there
      exact ih (inner (name, held) (by simp)) below

theorem tidy_empty : (directory []).Tidy := .directory .nil nofun nofun

theorem Tidy.put (tidy : node.Tidy) (tidy_new : new.Tidy)
    (proper : ∀ name ∈ names, Path.IsProper name) : (node.put names new).Tidy := by
  induction names generalizing node with
  | nil => cases node <;> exact tidy_new
  | cons name names ih =>
    obtain ⟨first, others⟩ := List.forall_mem_cons.1 proper
    have alone : (FileNode.directory [(name, FileNode.put (.directory []) names new)]).Tidy :=
      .directory (List.pairwise_singleton ..) (List.forall_mem_singleton.2 first)
        (List.forall_mem_singleton.2 (ih tidy_empty others))
    cases tidy with
    | file bytes => exact alone
    | unreadable => exact alone
    | link target => exact alone
    | @directory entries ascending proper inner =>
      have held : ((SortedMap.lookUp name entries).getD (.directory [])).Tidy := by
        cases there : SortedMap.lookUp name entries with
        | none => exact tidy_empty
        | some held =>
          exact inner (name, held) ((SortedMap.get?_eq_some_iff ⟨entries, ascending⟩).1 there)
      refine .directory (SortedMap.keysAscend_place ascending) (fun entry mem => ?_)
        fun entry mem => ?_
      · rcases SortedMap.mem_place mem with rfl | mem
        · exact first
        · exact proper entry mem
      · rcases SortedMap.mem_place mem with rfl | mem
        · exact ih held others
        · exact inner entry mem

end Tidy

section Walk

theorem regularNamesIn_eq_flatMap (entries : List (Text × FileNode)) :
    regularNamesIn entries = entries.flatMap fun entry => entry.2.regularNames.map (entry.1 :: ·) := by
  induction entries with
  | nil => rfl
  | cons entry entries ih => rw [regularNamesIn, ih, List.flatMap_cons]

mutual

theorem depthFirst_eq : (node : FileNode) → (path : Text) →
    node.depthFirst path = node.regularNames.map (Path.below path)
  | .file _, _ => rfl
  | .unreadable, _ => rfl
  | .link _, _ => rfl
  | .directory entries, path => go_eq entries path

theorem go_eq : (entries : List (Text × FileNode)) → (path : Text) →
    depthFirst.go path entries = (regularNamesIn entries).map (Path.below path)
  | [], _ => rfl
  | (name, node) :: entries, path => by
    rw [depthFirst.go, regularNamesIn, depthFirst_eq node (Path.join path name), go_eq entries path,
      List.map_append, List.map_map]
    rfl

end

variable {node : FileNode}

theorem mem_regularNames_iff (tidy : node.Tidy) (names : List Text) :
    names ∈ node.regularNames ↔ ∃ found, node.at? names = some found ∧ found.IsRegular := by
  induction tidy generalizing names with
  | file bytes =>
    cases names with
    | nil => simp [regularNames, FileNode.at?, IsRegular.file]
    | cons name names => simp [regularNames, FileNode.at?, child?]
  | unreadable =>
    cases names with
    | nil => simp [regularNames, FileNode.at?, IsRegular.unreadable]
    | cons name names => simp [regularNames, FileNode.at?, child?]
  | link target =>
    have irregular : ¬ (link target).IsRegular := by rintro ⟨⟩
    cases names with
    | nil => simp [regularNames, FileNode.at?, irregular]
    | cons name names => simp [regularNames, FileNode.at?, child?]
  | @directory entries ascending proper inner ih =>
    rw [regularNames, regularNamesIn_eq_flatMap]
    cases names with
    | nil =>
      have irregular : ¬ (directory entries).IsRegular := by rintro ⟨⟩
      simp [FileNode.at?, irregular]
    | cons name names =>
      have held (node : FileNode) : SortedMap.lookUp name entries = some node ↔
          (name, node) ∈ entries := SortedMap.get?_eq_some_iff ⟨entries, ascending⟩
      simp only [List.mem_flatMap, List.mem_map, FileNode.at?, child?, Option.bind_eq_some_iff, held]
      constructor
      · rintro ⟨⟨_, node⟩, mem, _, inside, same⟩
        obtain ⟨rfl, rfl⟩ := List.cons.inj same
        obtain ⟨found, there, regular⟩ := (ih _ mem _).1 inside
        exact ⟨found, ⟨node, mem, there⟩, regular⟩
      · rintro ⟨found, ⟨node, mem, there⟩, regular⟩
        exact ⟨(name, node), mem, names, (ih _ mem names).2 ⟨found, there, regular⟩, rfl⟩

theorem isProper_of_mem_regularNames (tidy : node.Tidy) {names : List Text}
    (mem : names ∈ node.regularNames) : ∀ name ∈ names, Path.IsProper name := by
  induction tidy generalizing names with
  | file bytes =>
    obtain rfl := List.mem_singleton.1 mem
    exact List.forall_mem_nil _
  | unreadable =>
    obtain rfl := List.mem_singleton.1 mem
    exact List.forall_mem_nil _
  | link target => cases mem
  | directory ascending proper inner ih =>
    rw [regularNames, regularNamesIn_eq_flatMap] at mem
    obtain ⟨entry, held, inside⟩ := List.mem_flatMap.1 mem
    obtain ⟨below, held_below, rfl⟩ := List.mem_map.1 inside
    exact List.forall_mem_cons.2 ⟨proper entry held, ih entry held held_below⟩

theorem regularNames_increasing (tidy : node.Tidy) : node.regularNames.Pairwise (· < ·) := by
  induction tidy with
  | file bytes => exact List.pairwise_singleton ..
  | unreadable => exact List.pairwise_singleton ..
  | link target => exact .nil
  | directory ascending proper inner ih =>
    rw [regularNames, regularNamesIn_eq_flatMap]
    refine List.pairwise_flatMap.2 ⟨fun entry held => List.pairwise_map.2 ?_, ?_⟩
    · exact (ih entry held).imp fun less => List.cons_lt_cons_iff.2 (.inr ⟨rfl, less⟩)
    · refine ascending.imp fun before names mem others mem' => ?_
      obtain ⟨names, -, rfl⟩ := List.mem_map.1 mem
      obtain ⟨others, -, rfl⟩ := List.mem_map.1 mem'
      exact List.cons_lt_cons_iff.2 (.inl (Text.before_iff_lt.1 before))

theorem below_increasing (tidy : node.Tidy) (directory : Text) :
    (node.regularNames.map (Path.below directory)).Pairwise fun path path' =>
      (Path.components path).map Utf8.encode < (Path.components path').map Utf8.encode := by
  refine List.pairwise_map.2 ((regularNames_increasing tidy).imp_of_mem fun mem mem' less => ?_)
  exact Path.components_below_lt (isProper_of_mem_regularNames tidy mem)
    (isProper_of_mem_regularNames tidy mem') less directory

end Walk

end FileNode

namespace Selector

variable {selector : Selector} {files : FileSystem}

/-- What is selected for a resource: the resource itself if it is a file, and for a directory the
regular files below it, each once and in the order of their components. -/
structure Expands (selector : Selector) (files : FileSystem) (resource : Text)
    (found : List Text) : Prop where
  file : files.isFile resource = true →
    found = if selector.accepts resource then [resource] else []
  directory : ∀ names entries, files.place resource = .ok (.node names (.directory entries)) →
    ∃ listed : List (List Text), found = listed.map (Path.below resource) ∧ listed.Nodup ∧
      (∀ below, below ∈ listed ↔
        selector.accepts (Path.below resource below) = true ∧
          ∃ node, (FileNode.directory entries).at? below = some node ∧ node.IsRegular) ∧
      found.Pairwise fun path path' =>
        (Path.components path).map Utf8.encode < (Path.components path').map Utf8.encode

theorem accepts_iff {path : Text} : selector.accepts path = true ↔
    (∃ stem, ∃ extension ∈ selector.extensions,
      Path.fileName? path = some (stem ++ '.' :: extension) ∧ stem ≠ [] ∧ '.' ∉ extension) ∧
    ∀ pieces ∈ selector.exclude, Glob.matchPieces pieces path = false := by
  have ends (extension : Text) : Path.extension? path = some extension ↔
      ∃ stem, Path.fileName? path = some (stem ++ '.' :: extension) ∧ stem ≠ [] ∧
        '.' ∉ extension := by
    simp only [Path.extension?, Option.bind_eq_some_iff, Path.nameExtension?_eq_some_iff]
    constructor
    · rintro ⟨_, named, stem, rfl, parts⟩
      exact ⟨stem, named, parts⟩
    · rintro ⟨stem, named, parts⟩
      exact ⟨_, named, stem, rfl, parts⟩
  unfold accepts
  split
  · rename_i extension given
    obtain ⟨stem, named, parts⟩ := (ends extension).1 given
    simp only [Bool.and_eq_true, List.contains_iff_mem, Bool.not_eq_true', List.any_eq_false,
      Bool.not_eq_true]
    refine and_congr_left fun _ => ⟨fun mem => ⟨stem, extension, mem, named, parts⟩, ?_⟩
    rintro ⟨stem', extension', mem, named', parts'⟩
    obtain rfl := Option.some.inj (given.symm.trans ((ends extension').2 ⟨stem', named', parts'⟩))
    exact mem
  · rename_i none
    refine ⟨fun refused => absurd refused Bool.false_ne_true, ?_⟩
    rintro ⟨⟨stem, extension, -, named, parts⟩, -⟩
    cases none.symm.trans ((ends extension).2 ⟨stem, named, parts⟩)

theorem expands_expansion (tidy : files.root.Tidy) (resource : Text) :
    selector.Expands files resource (selector.expansion files resource) where
  file file := by
    unfold expansion expand?
    unfold FileSystem.isFile at file
    split at file
    · rename_i leads
      simp [leads, List.filter_singleton]
    · rename_i leads
      simp [leads, List.filter_singleton]
    · cases file
  directory names entries leads := by
    have tidy_here := tidy.at? (FileSystem.at?_of_place leads)
    let walked := (FileNode.directory entries).regularNames
    have selected : selector.expansion files resource =
        (walked.map (Path.below resource)).filter selector.accepts := by
      simp [expansion, expand?, leads, FileNode.depthFirst_eq, walked]
    have once : walked.Nodup := (FileNode.regularNames_increasing tidy_here).imp ne_of_lt
    refine ⟨walked.filter fun below => selector.accepts (Path.below resource below), ?_,
      once.filter _, fun below => ?_, ?_⟩
    · rw [selected, List.filter_map]
      rfl
    · rw [List.mem_filter, and_comm, FileNode.mem_regularNames_iff tidy_here]
    · rw [selected]
      exact (FileNode.below_increasing tidy_here resource).filter _

theorem forall_compiled_iff {patterns : List Text} {compiled : List (List Glob.Piece)}
    (read : compileGlobs patterns = .ok compiled) (P : List Glob.Piece → Prop) :
    (∀ pieces ∈ compiled, P pieces) ↔
      ∀ pattern ∈ patterns, ∀ pieces, Glob.ofText pattern = .ok pieces → P pieces := by
  induction patterns generalizing compiled with
  | nil =>
    cases read
    simp
  | cons pattern patterns ih =>
    rw [compileGlobs] at read
    split at read
    · cases read
    · rename_i pieces first
      cases others : compileGlobs patterns with
      | error error =>
        rw [others] at read
        cases read
      | ok rest =>
        rw [others] at read
        cases read
        simp [ih others, first]

theorem ofConfig_eq_ok {config : Config} (built : ofConfig config = .ok selector) :
    selector.extensions = config.extensions ∧ compileGlobs config.exclude = .ok selector.exclude := by
  unfold ofConfig at built
  cases read : compileGlobs config.exclude with
  | error error =>
    rw [read] at built
    cases built
  | ok compiled =>
    rw [read] at built
    cases built
    exact ⟨rfl, rfl⟩

/-- A resource that is a file is selected if it is accepted, and a directory stands for the accepted
files below it, each once and in order. A file is accepted for its extension unless a pattern leaves
it out. -/
theorem select_expands {config : Config} {resources : List Text}
    (built : ofConfig config = .ok selector) (tidy : files.root.Tidy)
    (present : ∀ resource ∈ resources, files.isPresent resource = true) :
    (∃ parts, selector.select files resources = .ok parts.flatten ∧
      List.Forall₂ (selector.Expands files) resources parts) ∧
    ∀ path, selector.accepts path = true ↔
      (∃ stem, ∃ extension ∈ config.extensions,
        Path.fileName? path = some (stem ++ '.' :: extension) ∧ stem ≠ [] ∧ '.' ∉ extension) ∧
      ∀ pattern ∈ config.exclude, ∀ pieces, Glob.ofText pattern = .ok pieces →
        Glob.matchPieces pieces path = false := by
  obtain ⟨extensions, compiled⟩ := ofConfig_eq_ok built
  refine ⟨⟨resources.map (selector.expansion files), ?_, ?_⟩, fun path => ?_⟩
  · rw [select_of_present selector files present, List.flatMap_def]
  · refine List.forall₂_map_right_iff.2 (List.forall₂_same.2 fun resource _ => ?_)
    exact expands_expansion tidy resource
  · rw [accepts_iff, extensions, forall_compiled_iff compiled]

/-- A directory beside a file whose name goes on where the directory's name ends, a file that is left
out, and links to a directory from inside and outside. -/
def linkedTree : FileSystem where
  root := (((((FileNode.directory []).put ["d".toList, "a".toList, ".x.js".toList] (.file [])).put
    ["d".toList, "a-b.js".toList] (.file [])).put
    ["d".toList, "old".toList, "y.js".toList] (.file [])).put
    ["d".toList, "to.js".toList] (.link "a-b.js".toList)).put
    ["l".toList] (.link "d".toList)
  working := []

def withoutOld : Config := { Config.standard with exclude := ["**/old/**".toList] }

theorem select_expands_linkedTree :
    ∃ selector, ofConfig withoutOld = .ok selector ∧ linkedTree.root.Tidy ∧
      (∀ resource ∈ ["l".toList, "d/a-b.js".toList], linkedTree.isPresent resource = true) ∧
      selector.select linkedTree ["l".toList, "d/a-b.js".toList] =
        .ok ["l/a/.x.js".toList, "l/a-b.js".toList, "d/a-b.js".toList] ∧
      (∃ parts, selector.select linkedTree ["l".toList, "d/a-b.js".toList] = .ok parts.flatten ∧
        List.Forall₂ (selector.Expands linkedTree) ["l".toList, "d/a-b.js".toList] parts) := by
  have tidy : linkedTree.root.Tidy :=
    ((((FileNode.tidy_empty.put (.file []) (by decide)).put (.file []) (by decide)).put
      (.file []) (by decide)).put (.link _) (by decide)).put (.link _) (by decide)
  have present : ∀ resource ∈ ["l".toList, "d/a-b.js".toList],
      linkedTree.isPresent resource = true := by
    decide +kernel
  obtain ⟨selector, built⟩ : ∃ selector, ofConfig withoutOld = .ok selector := ⟨_, rfl⟩
  refine ⟨selector, built, tidy, present, ?_, (select_expands built tidy present).1⟩
  cases built
  decide +kernel

end Selector

end MessageHarvest
