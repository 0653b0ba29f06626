import MessageHarvest.Proofs.Files.Walk

namespace MessageHarvest

namespace Glob

variable {name path : Text} {pieces : List Piece}

/-- Characters with a meaning of their own in a pattern. A closing bracket has one only behind an
opening bracket. -/
def metacharacters : Text := ['?', '*', '[']

def belowDirectory (name : Text) : Text := "**/".toList ++ (name ++ '/' :: "**".toList)

section Reading

variable {position fuel : Nat} {opens : Bool} {rest : Text}

theorem piecesFrom_append {read : Text} {first : Piece} (some : read ≠ [])
    (reads : piece position opens (read ++ rest) = .ok (first, rest)) :
    piecesFrom (fuel + 1) position opens (read ++ rest) =
      (first :: ·) <$>
        piecesFrom fuel (position + read.length) (read.getLast? = Option.some '/') rest := by
  obtain ⟨c, source, rfl⟩ := List.exists_cons_of_ne_nil some
  have taken : (c :: (source ++ rest)).take ((source ++ rest).length + 1 - rest.length) =
      c :: source := by
    have length : (source ++ rest).length + 1 - rest.length = (c :: source).length := by
      rw [List.length_append, List.length_cons]
      omega
    rw [length]
    exact List.take_left
  rw [List.cons_append] at reads ⊢
  rw [piecesFrom, reads]
  dsimp only
  rw [taken]
  split <;> rename_i others
  · rw [others]
    rfl
  · rw [others]
    rfl

theorem piece_literal {c : Char} (literal : c ∉ metacharacters) :
    piece position opens (c :: rest) = .ok (.char c, rest) := by
  simp only [metacharacters, List.mem_cons, List.not_mem_nil, or_false, not_or] at literal
  obtain ⟨question, star, bracket⟩ := literal
  rw [piece]
  · exact fun same => question same
  · exact fun same => star same
  · exact fun same => bracket same

theorem piecesFrom_component (literal : ∀ c ∈ name, c ∉ metacharacters) :
    piecesFrom (name.length + 1 + fuel) position opens (name ++ '/' :: rest) =
      (name.map Piece.char ++ .char '/' :: ·) <$>
        piecesFrom fuel (position + name.length + 1) true rest := by
  induction name generalizing position opens with
  | nil =>
    rw [List.length_nil, Nat.zero_add, Nat.add_comm 1, List.nil_append, ← List.singleton_append,
      piecesFrom_append (List.cons_ne_nil _ _) (piece_literal (by decide))]
    rfl
  | cons c name ih =>
    obtain ⟨first, others⟩ := List.forall_mem_cons.1 literal
    have fuels : (c :: name).length + 1 + fuel = (name.length + 1 + fuel) + 1 := by
      rw [List.length_cons]
      omega
    have positions : position + 1 + name.length + 1 = position + (c :: name).length + 1 := by
      rw [List.length_cons]
      omega
    have whole : c :: name ++ '/' :: rest = [c] ++ (name ++ '/' :: rest) := rfl
    rw [fuels, whole, piecesFrom_append (List.cons_ne_nil _ _) (piece_literal first),
      List.length_singleton, ih others, positions, ← comp_map]
    rfl

theorem ofText_belowDirectory (literal : ∀ c ∈ name, c ∉ metacharacters) :
    ofText (belowDirectory name) =
      .ok (.anyDirectories :: (name.map Piece.char ++ [.char '/', .anyDirectories])) := by
  have length : (belowDirectory name).length = (name.length + 1 + 4) + 1 := by
    simp [belowDirectory]
  have front : piece 0 true ("**/".toList ++ (name ++ '/' :: "**".toList)) =
      .ok (.anyDirectories, name ++ '/' :: "**".toList) :=
    rfl
  have behind : piecesFrom (name.length + 1 + 4) 3 true (name ++ '/' :: "**".toList) =
      .ok (name.map Piece.char ++ [.char '/', .anyDirectories]) :=
    piecesFrom_component literal
  rw [ofText, length, belowDirectory, piecesFrom_append (by decide) front]
  exact congrArg ((Piece.anyDirectories :: ·) <$> ·) behind

end Reading

section Matching

theorem mem_afterSlashes_iff {rest : Text} :
    rest ∈ afterSlashes path ↔ ∃ front, path = front ++ '/' :: rest := by
  induction path with
  | nil => simp [afterSlashes]
  | cons c path ih =>
    have behind : (∃ front, c :: path = front ++ '/' :: rest) ↔
        (c = '/' ∧ path = rest) ∨ ∃ front, path = front ++ '/' :: rest := by
      constructor
      · rintro ⟨front, whole⟩
        cases front with
        | nil => exact .inl (List.cons.inj whole)
        | cons d front => exact .inr ⟨front, (List.cons.inj whole).2⟩
      · rintro (⟨rfl, rfl⟩ | ⟨front, rfl⟩)
        · exact ⟨[], rfl⟩
        · exact ⟨c :: front, rfl⟩
    rw [behind, afterSlashes, ← ih]
    split
    · rename_i slash
      rw [List.mem_cons]
      exact or_congr_left ⟨fun same => ⟨slash, same.symm⟩, fun both => both.2.symm⟩
    · rename_i other
      exact ⟨.inr, fun either => either.resolve_left fun both => other both.1⟩

theorem matchPieces_chars_iff {text : Text} :
    matchPieces (text.map Piece.char ++ pieces) path = true ↔
      ∃ rest, path = text ++ rest ∧ matchPieces pieces rest = true := by
  induction text generalizing path with
  | nil => simp
  | cons c text ih =>
    cases path with
    | nil => simp [matchPieces]
    | cons d path =>
      rw [List.map_cons, List.cons_append, matchPieces, Bool.and_eq_true, decide_eq_true_eq, ih]
      constructor
      · rintro ⟨rfl, rest, rfl, fits⟩
        exact ⟨rest, rfl, fits⟩
      · rintro ⟨rest, whole, fits⟩
        obtain ⟨rfl, rfl⟩ := List.cons.inj whole
        exact ⟨rfl, rest, rfl, fits⟩

theorem matchPieces_anyDirectories_iff :
    matchPieces (.anyDirectories :: pieces) path = true ↔
      matchPieces pieces path = true ∨
        (∃ front rest, path = front ++ '/' :: rest ∧ matchPieces pieces rest = true) ∨
        matchPieces pieces [] = true := by
  have behind : (∃ rest ∈ afterSlashes path, matchPieces pieces rest = true) ↔
      ∃ front rest, path = front ++ '/' :: rest ∧ matchPieces pieces rest = true := by
    simp only [mem_afterSlashes_iff]
    exact ⟨fun ⟨rest, ⟨front, whole⟩, fits⟩ => ⟨front, rest, whole, fits⟩,
      fun ⟨front, rest, whole, fits⟩ => ⟨rest, ⟨front, whole⟩, fits⟩⟩
  rw [matchPieces, Bool.or_eq_true, Bool.or_eq_true, List.any_eq_true, behind, or_assoc]

theorem matchPieces_anyDirectories_last : matchPieces [.anyDirectories] path = true :=
  matchPieces_anyDirectories_iff.2 (.inr (.inr rfl))

theorem matchPieces_component_iff :
    matchPieces (name.map Piece.char ++ [.char '/', .anyDirectories]) path = true ↔
      ∃ rest, path = name ++ '/' :: rest := by
  have split : name.map Piece.char ++ [.char '/', .anyDirectories] =
      (name ++ ['/']).map Piece.char ++ [.anyDirectories] := by
    simp
  rw [split, matchPieces_chars_iff]
  simp [matchPieces_anyDirectories_last]

end Matching

end Glob

namespace Path

variable {name path : Text}

theorem segments_cases (path : Text) :
    segments path = [path] ∨
      ∃ first rest, path = first ++ '/' :: rest ∧ segments path = first :: segments rest := by
  by_cases slash : '/' ∈ path
  · obtain ⟨first, rest, rfl, unslashed⟩ := List.eq_append_cons_of_mem slash
    exact .inr ⟨first, rest, rfl, by rw [segments_append, segments_of_unslashed unslashed]; rfl⟩
  · exact .inl (segments_of_unslashed slash)

theorem mem_dropLast_segments_iff (unslashed : '/' ∉ name) (path : Text) :
    name ∈ (segments path).dropLast ↔
      (∃ rest, path = name ++ '/' :: rest) ∨
        ∃ front rest, path = front ++ '/' :: (name ++ '/' :: rest) := by
  constructor
  · intro mem
    rcases segments_cases path with alone | ⟨first, rest, whole, split⟩
    · rw [alone] at mem
      cases mem
    · rw [split, List.dropLast_cons_of_ne_nil (segments_ne_nil rest)] at mem
      rcases List.mem_cons.1 mem with rfl | mem
      · exact .inl ⟨rest, whole⟩
      · rcases (mem_dropLast_segments_iff unslashed rest).1 mem with
          ⟨last, rfl⟩ | ⟨front, last, rfl⟩
        · exact .inr ⟨first, last, whole⟩
        · exact .inr ⟨first ++ '/' :: front, last, by simp [whole]⟩
  · have last (rest : Text) : name ∈ (segments (name ++ '/' :: rest)).dropLast := by
      rw [segments_append, segments_of_unslashed unslashed, List.singleton_append,
        List.dropLast_cons_of_ne_nil (segments_ne_nil rest)]
      exact List.mem_cons_self ..
    rintro (⟨rest, rfl⟩ | ⟨front, rest, rfl⟩)
    · exact last rest
    · rw [segments_append, List.dropLast_append_of_ne_nil (segments_ne_nil _)]
      exact List.mem_append_right _ (last rest)
  termination_by path.length
  decreasing_by
    rw [whole, List.length_append, List.length_cons]
    omega

end Path

theorem Glob.matchPieces_belowDirectory_iff {name path : Text} (nonempty : name ≠ [])
    (unslashed : '/' ∉ name) :
    matchPieces (.anyDirectories :: (name.map Piece.char ++ [.char '/', .anyDirectories])) path =
      true ↔ name ∈ (Path.segments path).dropLast := by
  rw [Path.mem_dropLast_segments_iff unslashed, matchPieces_anyDirectories_iff]
  simp only [matchPieces_component_iff]
  refine or_congr_right ?_
  constructor
  · rintro (⟨front, _, whole, rest, rfl⟩ | ⟨rest, none⟩)
    · exact ⟨front, rest, whole⟩
    · cases nonempty (List.append_eq_nil_iff.1 none.symm).1
  · rintro ⟨front, rest, whole⟩
    exact .inl ⟨front, _, whole, rest, rfl⟩

namespace Selector

variable {config : Config} {name : Text}

theorem ofConfig_belowDirectory (literal : ∀ c ∈ name, c ∉ Glob.metacharacters)
    (excludes : config.exclude = [Glob.belowDirectory name]) :
    ofConfig config = .ok ⟨config.extensions,
      [.anyDirectories :: (name.map Glob.Piece.char ++ [.char '/', .anyDirectories])]⟩ := by
  rw [ofConfig, excludes, compileGlobs, Glob.ofText_belowDirectory literal]
  rfl

/-- A directory that is left out takes along the paths that go through a directory of its name, and
no others: not those through directories whose names have its name as a part, and not a file of that
name. -/
theorem accepts_eq_false_iff_below (nonempty : name ≠ []) (unslashed : '/' ∉ name)
    (literal : ∀ c ∈ name, c ∉ Glob.metacharacters)
    (excludes : config.exclude = [Glob.belowDirectory name]) :
    ∃ selector, ofConfig config = .ok selector ∧
      ∀ path extension, Path.extension? path = some extension → extension ∈ config.extensions →
        (selector.accepts path = false ↔ name ∈ (Path.segments path).dropLast) := by
  refine ⟨_, ofConfig_belowDirectory literal excludes, fun path extension ends configured => ?_⟩
  have contains : config.extensions.contains extension = true := List.contains_iff_mem.2 configured
  rw [accepts, ends]
  simp only [contains, List.any_cons, List.any_nil, Bool.or_false, Bool.true_and,
    Bool.not_eq_false']
  exact Glob.matchPieces_belowDirectory_iff nonempty unslashed

theorem accepts_eq_false_iff_below_nearMisses :
    let name := "old.js".toList
    let config := { Config.standard with exclude := [Glob.belowDirectory name] }
    let extension := "js".toList
    let inside := "old.js/a/old.js".toList
    let beside := "bold.js/old.jsx/cold.js3/old.js".toList
    name ≠ [] ∧ '/' ∉ name ∧ (∀ c ∈ name, c ∉ Glob.metacharacters) ∧
      config.exclude = ["**/old.js/**".toList] ∧ extension ∈ config.extensions ∧
      Path.extension? inside = some extension ∧ Path.extension? beside = some extension ∧
      ∃ selector, ofConfig config = .ok selector ∧
        selector.accepts inside = false ∧ selector.accepts beside = true := by
  intro name config extension inside beside
  have literal : ∀ c ∈ name, c ∉ Glob.metacharacters := by simp [name, Glob.metacharacters]
  have configured : extension ∈ config.extensions := by decide +kernel
  have ends : Path.extension? inside = some extension := by decide +kernel
  have ends' : Path.extension? beside = some extension := by decide +kernel
  have excludes : config.exclude = [Glob.belowDirectory name] := rfl
  obtain ⟨selector, built, drops⟩ :=
    accepts_eq_false_iff_below (by decide) (by decide) literal excludes
  refine ⟨by decide, by decide, literal, rfl, configured, ends, ends', selector, built, ?_, ?_⟩
  · exact (drops inside extension ends configured).2 (by decide +kernel)
  · refine eq_true_of_ne_false fun dropped => ?_
    exact absurd ((drops beside extension ends' configured).1 dropped) (by decide +kernel)

end Selector

end MessageHarvest
