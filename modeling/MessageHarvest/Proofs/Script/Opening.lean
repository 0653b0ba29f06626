import MessageHarvest.Proofs.Script.Callee

namespace MessageHarvest.Script

namespace Word

def isName : Text → Bool
  | [] => false
  | c :: cs => Text.startsIdentifier c && cs.all Text.continuesIdentifier

end Word

theorem not_isDigit_of_startsIdentifier {c : Char} (h : Text.startsIdentifier c = true) :
    c.isDigit = false := by
  rw [← Bool.not_eq_true]
  intro digit
  simp only [Char.isDigit, Bool.and_eq_true, decide_eq_true_eq] at digit
  have bounds : 48 ≤ c.toNat ∧ c.toNat ≤ 57 := digit
  have none : ∀ n, 48 ≤ n → n ≤ 57 → Text.startsIdentifier (Char.ofNat n) = false := by
    decide
  have here := none c.toNat bounds.1 bounds.2
  rw [Char.ofNat_toNat, h] at here
  cases here

theorem isSpace_of_isBlank {c : Char} (h : isBlank c = true) (mark : c.toNat ≠ 0xFEFF) :
    Text.isSpace c = true := by
  simp only [isBlank, mark, Bool.or_eq_true, Bool.and_eq_true, decide_eq_true_eq, decide_false,
    Bool.or_false] at h
  rcases h with (((((((((rfl | rfl) | h) | h) | h) | h) | h) | h) | h) | h)
  · decide
  · decide
  all_goals
    simp [Text.isSpace]
    omega

theorem not_isBlank_of_startsIdentifier {c : Char} (h : Text.startsIdentifier c = true) :
    isLineTerminator c = false ∧ isBlank c = false := by
  have space := (isPlain_iff.1 (isPlain_of_startsIdentifier h)).2.2.2
  have mark : c.toNat ≠ 0xFEFF := by
    intro same
    rw [← Char.ofNat_toNat c, same] at h
    revert h
    decide +kernel
  constructor
  · rw [← Bool.not_eq_true]
    intro terminator
    rw [isSpace_of_isLineTerminator terminator] at space
    cases space
  · rw [← Bool.not_eq_true]
    intro blank
    rw [isSpace_of_isBlank blank mark] at space
    cases space

theorem ne_of_startsIdentifier {c d : Char} (h : Text.startsIdentifier c = true)
    (other : Text.startsIdentifier d = false) : c ≠ d := by
  rintro rfl
  rw [h] at other
  cases other

theorem solid_of_startsIdentifier {c : Char} (h : Text.startsIdentifier c = true) : Solid c := by
  obtain ⟨terminator, blank⟩ := not_isBlank_of_startsIdentifier h
  refine ⟨?_, ?_, ?_, terminator, blank⟩ <;>
    exact ne_of_startsIdentifier h (by decide +kernel)

theorem next_solid {c : Char} (solid : Solid c) (rest : Text) (line : Nat) :
    Lexeme.next ⟨c :: rest, line⟩ =
      (Cut.ofCursor ⟨c :: rest, line⟩).lexeme ⟨c :: rest, line⟩ false
        (Cut.ofCursor ⟨c :: rest, line⟩).notes := by
  rw [Lexeme.next, Gap.skip_solid solid]
  rfl

namespace WordReading

theorem continueFrom_name {name rest : Text} {c : Char} {before : Text} {fuel : Nat}
    (letters : name.all Text.continuesIdentifier = true) (begun : before ≠ [])
    (enough : name.length < fuel) (stop : Text.continuesIdentifier c = false) (other : c ≠ '\\') :
    continueFrom fuel before false (name ++ c :: rest) =
      .word (before.reverse ++ name) false (c :: rest) := by
  induction name generalizing before fuel with
  | nil =>
    cases fuel with
    | zero => cases enough
    | succ fuel =>
      cases before with
      | nil => exact absurd rfl begun
      | cons d before => simp [continueFrom, continuesWord, stop, other]
  | cons d name ih =>
    cases fuel with
    | zero => cases enough
    | succ fuel =>
      rw [List.all_cons, Bool.and_eq_true] at letters
      have notBackslash : d ≠ '\\' := by
        rintro rfl
        exact absurd letters.1 (by decide)
      have continues : continuesWord before d = true := by
        cases before with
        | nil => exact absurd rfl begun
        | cons e before => exact letters.1
      have step := ih letters.2 (List.cons_ne_nil d before) (Nat.lt_of_succ_lt_succ enough)
      simpa [continueFrom, notBackslash, continues] using step

theorem ofText_name {name rest : Text} {c : Char} (isName : Word.isName name = true)
    (stop : Text.continuesIdentifier c = false) (other : c ≠ '\\') :
    ofText (name ++ c :: rest) = .word name false (c :: rest) := by
  cases name with
  | nil => cases isName
  | cons d name =>
    simp only [Word.isName, Bool.and_eq_true] at isName
    obtain ⟨starts, letters⟩ := isName
    have notBackslash : d ≠ '\\' := ne_of_startsIdentifier starts (by decide)
    have enough : name.length < (d :: (name ++ c :: rest)).length := by
      rw [List.length_cons, List.length_append]
      omega
    have step := @continueFrom_name name rest c [d] _ letters (List.cons_ne_nil d []) enough stop other
    have continues : continuesWord [] d = true := starts
    simpa [ofText, continueFrom, notBackslash, continues] using step

end WordReading

namespace Lexeme

variable {line : Nat}

theorem cut_name {name rest : Text} {c : Char} (isName : Word.isName name = true)
    (stop : Text.continuesIdentifier c = false) (other : c ≠ '\\') :
    Cut.ofCursor ⟨name ++ c :: rest, line⟩ = ⟨.word name false, [], ⟨c :: rest, line⟩⟩ := by
  have read : WordReading.ofText (name ++ c :: rest) = _ :=
    WordReading.ofText_name isName stop other
  cases name with
  | nil => cases isName
  | cons d name =>
    simp only [Word.isName, Bool.and_eq_true] at isName
    have starts := isName.1
    obtain ⟨-, single, double, -⟩ := isPlain_iff.1 (isPlain_of_startsIdentifier starts)
    have notTemplate : d.toNat ≠ 0x60 := fun same =>
      ne_of_startsIdentifier starts (by decide) (Char.toNat_inj.1 same : d = '\x60')
    have notDot : d ≠ '.' := ne_of_startsIdentifier starts (by decide)
    have notDigit := not_isDigit_of_startsIdentifier starts
    rw [List.cons_append] at read ⊢
    simp [Cut.ofCursor, Cut.word, Cut.fractionFirst, single, double, notTemplate, notDot, notDigit,
      starts, read]

theorem next_name {name rest : Text} {c : Char} (isName : Word.isName name = true)
    (stop : Text.continuesIdentifier c = false) (other : c ≠ '\\') :
    Lexeme.next ⟨name ++ c :: rest, line⟩ =
      ⟨.word name false, ⟨name ++ c :: rest, line⟩, false, [], ⟨c :: rest, line⟩⟩ := by
  have cut : Cut.ofCursor ⟨name ++ c :: rest, line⟩ = _ := cut_name isName stop other
  cases name with
  | nil => cases isName
  | cons d name =>
    simp only [Word.isName, Bool.and_eq_true] at isName
    rw [List.cons_append] at cut ⊢
    rw [next_solid (solid_of_startsIdentifier isName.1), cut]
    rfl

theorem first_name {name rest : Text} {c : Char} (isName : Word.isName name = true)
    (stop : Text.continuesIdentifier c = false) (other : c ≠ '\\') :
    Lexeme.first (name ++ c :: rest) =
      ⟨.word name false, ⟨name ++ c :: rest, 1⟩, true, [], ⟨c :: rest, 1⟩⟩ := by
  have cut : Cut.ofCursor ⟨name ++ c :: rest, 1⟩ = _ := cut_name isName stop other
  cases name with
  | nil => cases isName
  | cons d name =>
    simp only [Word.isName, Bool.and_eq_true] at isName
    have notHash : d ≠ '#' := ne_of_startsIdentifier isName.1 (by decide)
    have plain : Lexeme.first (d :: (name ++ c :: rest)) =
        Lexeme.afterGap (Gap.skip .blanks true 1 [] (d :: (name ++ c :: rest))) := by
      unfold Lexeme.first
      split
      · rename_i whole
        exact absurd (List.cons.inj whole).1 notHash
      · rfl
    rw [List.cons_append] at cut ⊢
    rw [plain, Gap.skip_solid (solid_of_startsIdentifier isName.1), Lexeme.afterGap, cut]
    rfl

theorem next_dot {c : Char} {rest : Text} (starts : Text.startsIdentifier c = true) :
    Lexeme.next ⟨'.' :: c :: rest, line⟩ =
      ⟨.mark .dot, ⟨'.' :: c :: rest, line⟩, false, [], ⟨c :: rest, line⟩⟩ := by
  have notDot : '.' ≠ c := (ne_of_startsIdentifier starts (by decide)).symm
  have notDigit := not_isDigit_of_startsIdentifier starts
  have cut : Cut.ofCursor ⟨'.' :: c :: rest, line⟩ = ⟨.mark .dot, [], ⟨c :: rest, line⟩⟩ := by
    have noName : Text.startsIdentifier '.' = false := by decide
    simp [Cut.ofCursor, Cut.fractionFirst, notDigit, noName, Cut.mark, Mark.ofText?, Mark.longestIn,
      Mark.spellings, Text.dropBeginning?, notDot]
  rw [next_solid ⟨by decide, by decide, by decide, by decide, by decide⟩, cut]
  rfl

inductive Single : Char → Mark → Prop
  | comma : Single ',' .comma
  | parenOpen : Single '(' .parenOpen
  | parenClose : Single ')' .parenClose

theorem Single.solid {c : Char} {mark : Mark} (single : Single c mark) : Solid c := by
  cases single <;> exact ⟨by decide, by decide, by decide, by decide, by decide⟩

theorem cut_single {c : Char} {mark : Mark} (single : Single c mark) (rest : Text) :
    Cut.ofCursor ⟨c :: rest, line⟩ = ⟨.mark mark, [], ⟨rest, line⟩⟩ := by
  have noName : Text.startsIdentifier c = false := by cases single <;> decide
  cases single <;>
    simp [Cut.ofCursor, Cut.fractionFirst, noName, Cut.mark, Mark.ofText?, Mark.longestIn,
      Mark.spellings, Text.dropBeginning?]

theorem next_single {c : Char} {mark : Mark} (single : Single c mark) (rest : Text) :
    Lexeme.next ⟨c :: rest, line⟩ =
      ⟨.mark mark, ⟨c :: rest, line⟩, false, [], ⟨rest, line⟩⟩ := by
  rw [next_solid single.solid, cut_single single]
  rfl

theorem next_spaces {spaces tail : Text} {c : Char} {mark : Mark} {cursor : Cursor}
    (single : Single c mark) (blank : ∀ d ∈ spaces, Text.isSpace d = true)
    (whole : cursor.rest = spaces ++ c :: tail) :
    ((Lexeme.next cursor).token = .mark mark ∧ (Lexeme.next cursor).after.rest = tail) ∨
      ∃ report, (Lexeme.next cursor).token = .broken report := by
  obtain ⟨rest, newline, line, suffix, skip⟩ :=
    Gap.skip_spaces blank single.solid tail false cursor.line []
  rw [Lexeme.next, whole, skip, Lexeme.afterGap]
  cases rest with
  | nil =>
    rw [List.nil_append, cut_single single]
    exact .inl ⟨rfl, rfl⟩
  | cons d rest =>
    obtain ⟨report, cut⟩ := Ending.cut_space (blank d (suffix.subset (by simp))) (rest ++ c :: tail) line
    rw [List.cons_append, cut]
    exact .inr ⟨report, rfl⟩

theorem next_plain {delimiter : Char} {body rest : Text} {cursor : Cursor}
    (quotes : delimiter = '\'' ∨ delimiter = '"') (unquoted : delimiter ∉ body)
    (unescaped : '\\' ∉ body) (whole : cursor.rest = delimiter :: (body ++ delimiter :: rest))
    (faultless : (Lexeme.next cursor).notes = []) :
    (Lexeme.next cursor).token = .string (some body) ∧ (Lexeme.next cursor).after.rest = rest := by
  have solid : Solid delimiter := by
    rcases quotes with rfl | rfl <;> exact ⟨by decide, by decide, by decide, by decide, by decide⟩
  obtain ⟨text, line⟩ := cursor
  obtain rfl : text = delimiter :: (body ++ delimiter :: rest) := whole
  rw [next_solid solid] at faultless ⊢
  obtain ⟨line', cut⟩ := Cut.ofCursor_plain quotes unquoted unescaped faultless
  rw [cut]
  exact ⟨rfl, rfl⟩

end Lexeme

theorem begins_of_name {object method : Text} (objectName : Word.isName object = true)
    (reference : Word.isReference object = true) (methodName : Word.isName method = true)
    (rest : Text) :
    Parse.Begins object method (Lexeme.first (object ++ '.' :: (method ++ '(' :: rest)))
      ⟨.mark .parenOpen, ⟨'(' :: rest, 1⟩, false, [], ⟨rest, 1⟩⟩ := by
  have first : Lexeme.first (object ++ '.' :: (method ++ '(' :: rest)) = _ :=
    Lexeme.first_name objectName (by decide) (by decide)
  have second : Lexeme.next ⟨'.' :: (method ++ '(' :: rest), 1⟩ =
      ⟨.mark .dot, ⟨'.' :: (method ++ '(' :: rest), 1⟩, false, [], ⟨method ++ '(' :: rest, 1⟩⟩ := by
    cases method with
    | nil => cases methodName
    | cons c method =>
      simp only [Word.isName, Bool.and_eq_true] at methodName
      exact Lexeme.next_dot methodName.1
  have third : Lexeme.next ⟨method ++ '(' :: rest, 1⟩ = _ :=
    Lexeme.next_name methodName (by decide) (by decide)
  have fourth : Lexeme.next ⟨'(' :: rest, 1⟩ = _ := Lexeme.next_single .parenOpen rest
  rw [first]
  refine ⟨rfl, reference, ?_, ?_, ?_, rfl⟩ <;> dsimp only
  · rw [second]
  · rw [second, third]
  · rw [second, third, fourth]

end MessageHarvest.Script
