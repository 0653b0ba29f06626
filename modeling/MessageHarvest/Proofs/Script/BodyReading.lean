import MessageHarvest.Proofs.Script.Body

namespace MessageHarvest.Script

variable {delimiter : Char} {after digits : Text}

theorem isHexDigit_brace : Text.isHexDigit '\x7d' = false ∧ Text.isHexDigit '\x7b' = false := by
  decide

theorem takeHex?_fourDigits (formed : (Piece.fourDigits digits).Formed delimiter) :
    Text.takeHex? 4 0 (digits ++ after) = some (Text.hexNumber digits, after) := by
  have taken := Text.takeHex?_append formed.2 after
  rwa [formed.1] at taken

theorem fourDigits_ne_brace (formed : (Piece.fourDigits digits).Formed delimiter) (rest : Text) :
    digits ++ after ≠ '\x7b' :: rest := by
  intro same
  cases digits with
  | nil => cases formed.1
  | cons c digits =>
    obtain ⟨rfl, -⟩ := List.cons.inj same
    have first := formed.2.of_cons.1
    rw [isHexDigit_brace.2] at first
    cases first

namespace Escape

theorem isOctalDigit_of_not_isDigit {c : Char} (other : c.isDigit = false) :
    isOctalDigit c = false := by
  have bound : c.toNat ≤ 55 → c.toNat ≤ 57 := by omega
  rw [← Bool.not_eq_true, isOctalDigit, Bool.and_eq_true, decide_eq_true_eq, decide_eq_true_eq]
  intro octal
  have digit : c.isDigit = true := by
    simp only [Char.isDigit, Bool.and_eq_true, decide_eq_true_eq]
    exact ⟨octal.1, bound octal.2⟩
  rw [digit] at other
  cases other

theorem ofText_letter {c : Char} (formed : (Piece.letter c).Formed delimiter) :
    ofText (c :: after) = .units [(Piece.letterValue c).toNat] after := by
  obtain ⟨digit, hex, unicode, -⟩ := formed
  have octal := isOctalDigit_of_not_isDigit digit
  unfold ofText
  split
  case h_1 none => cases none
  case h_8 same => exact absurd (List.cons.inj same).1 hex
  case h_9 same => exact absurd (List.cons.inj same).1 unicode
  case h_10 same =>
    obtain ⟨rfl, -⟩ := List.cons.inj same
    cases digit
  case h_11 newline return' tab backspace feed vertical _ _ _ same =>
    obtain ⟨rfl, rfl⟩ := List.cons.inj same
    rw [octal, Piece.letterValue, if_neg newline, if_neg return', if_neg tab, if_neg backspace,
      if_neg feed, if_neg vertical]
    rfl
  all_goals
    rename_i same
    obtain ⟨rfl, rfl⟩ := List.cons.inj same
    rfl

theorem ofText_nul (fits : Piece.nul.Fits after) : ofText ('0' :: after) = .units [0] after := by
  cases after with
  | nil => rfl
  | cons c after =>
    have octal := isOctalDigit_of_not_isDigit (fits c rfl)
    simp [ofText, octal]

theorem ofText_hexPair (formed : (Piece.hexPair digits).Formed delimiter) :
    ofText ('x' :: (digits ++ after)) = .units [Text.hexNumber digits] after := by
  obtain ⟨two, hex⟩ := formed
  have taken := Text.takeHex?_append hex after
  rw [two] at taken
  rw [ofText, hexPair, taken]

theorem ofText_braced (formed : (Piece.braced digits).Formed delimiter) :
    ofText ('u' :: '\x7b' :: (digits ++ '\x7d' :: after)) =
      .units [Text.hexNumber digits] after := by
  obtain ⟨some, hex, bounded⟩ := formed
  have stops : ∀ c ∈ ('\x7d' :: after).head?, Text.isHexDigit c = false := by
    rintro c ⟨⟩
    exact isHexDigit_brace.1
  have count : ¬ 0 + digits.length = 0 := by
    rw [Nat.zero_add]
    exact fun none => some (List.eq_nil_of_length_eq_zero none)
  have small : ¬ Text.hexFrom 0 digits > 0x10FFFF := Nat.not_lt.2 (Nat.le_of_lt_succ bounded)
  rw [ofText, unicode, braced, Text.spanHex_append hex stops]
  simp only [if_neg count, if_neg small]
  rfl

theorem unicode_fourDigits (formed : (Piece.fourDigits digits).Formed delimiter) :
    unicode (digits ++ after) = fourDigits (digits ++ after) := by
  unfold unicode
  split
  · rename_i same
    exact absurd same (fourDigits_ne_brace formed _)
  · rfl

theorem ofText_fourDigits (formed : (Piece.fourDigits digits).Formed delimiter)
    (unpaired : Text.isHighSurrogate (Text.hexNumber digits) = true →
      ∀ more, after ≠ '\\' :: 'u' :: more) :
    ofText ('u' :: (digits ++ after)) = .units [Text.hexNumber digits] after := by
  rw [ofText, unicode_fourDigits formed, fourDigits, takeHex?_fourDigits formed]
  dsimp only
  split
  · rename_i high
    split
    · rename_i more
      exact absurd rfl (unpaired high more)
    · rfl
  · rfl

theorem ofText_pair {second : Text} (formed : (Piece.fourDigits digits).Formed delimiter)
    (formed' : (Piece.fourDigits second).Formed delimiter)
    (high : Text.isHighSurrogate (Text.hexNumber digits) = true) :
    ofText ('u' :: (digits ++ '\\' :: 'u' :: (second ++ after))) =
      .units [Text.hexNumber digits, Text.hexNumber second] after := by
  rw [ofText, unicode_fourDigits formed, fourDigits, takeHex?_fourDigits formed]
  simp only [high, if_true, takeHex?_fourDigits formed']

end Escape

theorem lineContinuation?_eq_none {c : Char} (other : isLineTerminator c = false) (rest : Text)
    (line : Nat) : lineContinuation? ⟨'\\' :: c :: rest, line⟩ = none := by
  have newline : c ≠ '\r' := by
    rintro rfl
    cases other
  unfold lineContinuation?
  split
  · rename_i same
    exact absurd (List.cons.inj (List.cons.inj same).2).1 newline
  · rename_i same
    obtain ⟨rfl, rfl⟩ := List.cons.inj (List.cons.inj same).2
    rw [other]
    rfl
  · rfl

theorem lineContinuation?_lineEnd {terminator : Text} (ends : terminator ∈ lineEnds)
    (fits : (Piece.continuation terminator).Fits after) (line : Nat) :
    ∃ line', lineContinuation? ⟨'\\' :: (terminator ++ after), line⟩ = some ⟨after, line'⟩ := by
  simp only [lineEnds, List.mem_cons, List.not_mem_nil, or_false] at ends
  rcases ends with rfl | rfl | rfl | rfl | rfl
  · exact ⟨_, rfl⟩
  · cases after with
    | nil => exact ⟨_, rfl⟩
    | cons c after =>
      have other : c ≠ '\n' := by
        rintro rfl
        exact fits rfl rfl
      refine ⟨Cursor.lineAfter '\r' (c :: after) line, ?_⟩
      unfold lineContinuation?
      split
      · rename_i same
        exact absurd (List.cons.inj (List.cons.inj (List.cons.inj same).2).2).1 other
      · rename_i same
        obtain ⟨rfl, -⟩ := List.cons.inj (List.cons.inj same).2
        rfl
      · rename_i none
        exact absurd rfl (none '\r' (c :: after))
  · exact ⟨_, rfl⟩
  · exact ⟨_, rfl⟩
  · exact ⟨_, rfl⟩

theorem Piece.Fits.append {piece : Piece} {rest : Text} (fits : piece.Fits rest)
    (quotes : delimiter = '\'' ∨ delimiter = '"') (tail : Text) :
    piece.Fits (rest ++ delimiter :: tail) := by
  cases rest with
  | cons c rest => cases piece <;> exact fits
  | nil =>
    cases piece with
    | nul =>
      rintro c ⟨⟩
      rcases quotes with rfl | rfl <;> rfl
    | continuation terminator =>
      intro _ newline
      obtain rfl := Option.some.inj newline
      rcases quotes with quote | quote <;> cases quote
    | _ => trivial

theorem Piece.text_ne_unicode {piece : Piece} (formed : piece.Formed delimiter)
    (notFour : ∀ digits, piece ≠ .fourDigits digits) (notBraced : ∀ digits, piece ≠ .braced digits)
    (more : Text) : piece.text ++ after ≠ '\\' :: 'u' :: more := by
  intro same
  cases piece with
  | plain c => exact formed.2.1 (List.cons.inj same).1
  | letter c => exact formed.2.2.1 (List.cons.inj (List.cons.inj same).2).1
  | nul => cases same
  | hexPair digits => cases same
  | fourDigits digits => exact notFour digits rfl
  | braced digits => exact notBraced digits rfl
  | continuation terminator =>
    simp only [Formed, lineEnds, List.mem_cons, List.not_mem_nil, or_false] at formed
    rcases formed with rfl | rfl | rfl | rfl | rfl <;> cases same

def Mixes : Piece → Piece → Prop
  | .fourDigits high, .braced _ => Text.isHighSurrogate (Text.hexNumber high) = true
  | _, _ => False

namespace StringReading

variable {fuel line : Nat} {units : List Nat} {notes : List Report}

theorem continueFrom_units {c : Char} {rest : Text} {codes : List Nat}
    (other : isLineTerminator c = false) (read : Escape.ofText (c :: rest) = .units codes after) :
    continueFrom delimiter (fuel + 1) ⟨'\\' :: c :: rest, line⟩ units notes =
      continueFrom delimiter fuel ⟨after, line⟩ (codes.reverse ++ units) notes := by
  rw [continueFrom, lineContinuation?_eq_none other]
  simp only [read]

theorem continueFrom_piece {piece : Piece} (formed : piece.Formed delimiter)
    (fits : piece.Fits after)
    (unpaired : ∀ digits, piece = .fourDigits digits →
      Text.isHighSurrogate (Text.hexNumber digits) = true → ∀ more, after ≠ '\\' :: 'u' :: more)
    (fuel line : Nat) (units : List Nat) (notes : List Report) :
    ∃ line', continueFrom delimiter (fuel + 1) ⟨piece.text ++ after, line⟩ units notes =
      continueFrom delimiter fuel ⟨after, line'⟩ (piece.points.reverse ++ units) notes := by
  cases piece with
  | plain c =>
    obtain ⟨unquoted, unescaped, newline, return'⟩ := formed
    refine ⟨Cursor.lineAfter c after line, ?_⟩
    simp [Piece.text, Piece.points, continueFrom, lineContinuation?, unquoted, unescaped, newline,
      return', Cursor.advance]
  | letter c => exact ⟨line, continueFrom_units formed.2.2.2 (Escape.ofText_letter formed)⟩
  | nul => exact ⟨line, continueFrom_units rfl (Escape.ofText_nul fits)⟩
  | hexPair digits => exact ⟨line, continueFrom_units rfl (Escape.ofText_hexPair formed)⟩
  | fourDigits digits =>
    exact ⟨line, continueFrom_units rfl (Escape.ofText_fourDigits formed (unpaired digits rfl))⟩
  | braced digits =>
    refine ⟨line, ?_⟩
    have whole : (Piece.braced digits).text ++ after =
        '\\' :: 'u' :: '\x7b' :: (digits ++ '\x7d' :: after) := by
      simp [Piece.text]
    rw [whole]
    exact continueFrom_units rfl (Escape.ofText_braced formed)
  | continuation terminator =>
    obtain ⟨line', continued⟩ := lineContinuation?_lineEnd formed fits line
    refine ⟨line', ?_⟩
    rw [Piece.text, List.cons_append, continueFrom, continued]
    rfl

theorem continueFrom_pair {digits second : Text} (formed : (Piece.fourDigits digits).Formed delimiter)
    (formed' : (Piece.fourDigits second).Formed delimiter)
    (high : Text.isHighSurrogate (Text.hexNumber digits) = true) :
    continueFrom delimiter (fuel + 1)
        ⟨(Piece.fourDigits digits).text ++ ((Piece.fourDigits second).text ++ after), line⟩ units
        notes =
      continueFrom delimiter fuel ⟨after, line⟩
        ([Text.hexNumber second, Text.hexNumber digits] ++ units) notes :=
  continueFrom_units rfl (Escape.ofText_pair formed formed' high)

theorem unpaired_or_pair {digits : Text} {rest : List Piece} (body : IsBody delimiter rest)
    (unmixed : (Piece.fourDigits digits :: rest).IsChain fun first second => ¬ Mixes first second)
    (high : Text.isHighSurrogate (Text.hexNumber digits) = true)
    (quotes : delimiter = '\'' ∨ delimiter = '"') (tail : Text) :
    (∀ more, spell rest ++ delimiter :: tail ≠ '\\' :: 'u' :: more) ∨
      ∃ second rest', rest = .fourDigits second :: rest' := by
  cases rest with
  | nil =>
    refine .inl fun more same => ?_
    obtain ⟨rfl, -⟩ := List.cons.inj same
    rcases quotes with quote | quote <;> cases quote
  | cons next rest =>
    by_cases four : ∃ second, next = .fourDigits second
    · obtain ⟨second, rfl⟩ := four
      exact .inr ⟨second, rest, rfl⟩
    · refine .inl fun more same => ?_
      have notBraced (second : Text) : next ≠ .braced second := by
        rintro rfl
        exact (List.isChain_cons_cons.1 unmixed).1 high
      rw [spell_cons, List.append_assoc] at same
      exact Piece.text_ne_unicode body.1 (fun second four' => four ⟨second, four'⟩) notBraced more same

theorem continueFrom_body {pieces : List Piece} (body : IsBody delimiter pieces)
    (unmixed : pieces.IsChain fun first second => ¬ Mixes first second)
    (quotes : delimiter = '\'' ∨ delimiter = '"') {fuel : Nat} (enough : (spell pieces).length < fuel)
    (tail : Text) (line : Nat) (units : List Nat) (notes : List Report) :
    ∃ line', continueFrom delimiter fuel ⟨spell pieces ++ delimiter :: tail, line⟩ units notes =
      .closed (units.reverse ++ pointsOf pieces) notes ⟨tail, line'⟩ := by
  match pieces, fuel with
  | [], fuel + 1 =>
    have other : delimiter ≠ '\\' := by rcases quotes with rfl | rfl <;> decide
    refine ⟨Cursor.lineAfter delimiter tail line, ?_⟩
    simp [spell, pointsOf, continueFrom, lineContinuation?, other, Cursor.advance]
  | piece :: rest, fuel + 1 =>
    obtain ⟨formed, fits, below⟩ := body
    have whole : spell (piece :: rest) ++ delimiter :: tail =
        piece.text ++ (spell rest ++ delimiter :: tail) := by
      rw [spell_cons, List.append_assoc]
    have single (unpaired : ∀ digits, piece = .fourDigits digits →
        Text.isHighSurrogate (Text.hexNumber digits) = true →
          ∀ more, spell rest ++ delimiter :: tail ≠ '\\' :: 'u' :: more) :
        ∃ line', continueFrom delimiter (fuel + 1)
            ⟨spell (piece :: rest) ++ delimiter :: tail, line⟩ units notes =
          .closed (units.reverse ++ pointsOf (piece :: rest)) notes ⟨tail, line'⟩ := by
      obtain ⟨line', step⟩ := continueFrom_piece formed (fits.append quotes tail) unpaired fuel line
        units notes
      have shorter : (spell rest).length < fuel := by
        have some := piece.text_pos
        rw [spell_cons, List.length_append] at enough
        omega
      obtain ⟨last, others⟩ := continueFrom_body below unmixed.tail quotes shorter tail line'
        (piece.points.reverse ++ units) notes
      refine ⟨last, ?_⟩
      rw [whole, step, others]
      simp [pointsOf]
    by_cases first : ∃ digits, piece = .fourDigits digits ∧
        Text.isHighSurrogate (Text.hexNumber digits) = true
    · obtain ⟨digits, rfl, high⟩ := first
      rcases unpaired_or_pair below unmixed high quotes tail with alone | ⟨second, rest, rfl⟩
      · exact single fun _ _ _ => alone
      · obtain ⟨formed', -, below⟩ := below
        have shorter : (spell rest).length < fuel := by
          simp only [spell_cons, List.length_append] at enough
          have some := (Piece.fourDigits digits).text_pos
          omega
        obtain ⟨last, others⟩ := continueFrom_body below unmixed.tail.tail quotes shorter tail line
          ([Text.hexNumber second, Text.hexNumber digits] ++ units) notes
        refine ⟨last, ?_⟩
        rw [whole, spell_cons, List.append_assoc, continueFrom_pair formed formed' high]
        exact others.trans (by simp [pointsOf, Piece.points])
    · exact single fun digits same high => absurd ⟨digits, same, high⟩ first
  termination_by pieces.length

end StringReading

theorem Piece.points_lt {piece : Piece} (formed : piece.Formed delimiter) :
    ∀ n ∈ piece.points, n < 0x110000 := by
  have short (digits : Text) (few : digits.length ≤ 4) : Text.hexNumber digits < 0x110000 :=
    Nat.lt_of_lt_of_le (Text.hexNumber_lt digits)
      (Nat.le_trans (Nat.pow_le_pow_right (by decide) few) (by decide))
  cases piece with
  | continuation terminator => exact nofun
  | plain c => exact List.forall_mem_singleton.2 (Text.toNat_lt c)
  | letter c => exact List.forall_mem_singleton.2 (Text.toNat_lt _)
  | nul => exact List.forall_mem_singleton.2 (by decide)
  | hexPair digits => exact List.forall_mem_singleton.2 (short digits (by rw [formed.1]; decide))
  | fourDigits digits => exact List.forall_mem_singleton.2 (short digits (by rw [formed.1]))
  | braced digits => exact List.forall_mem_singleton.2 formed.2.2

theorem pointsOf_lt {pieces : List Piece} (body : IsBody delimiter pieces) :
    ∀ n ∈ pointsOf pieces, n < 0x110000 := by
  induction pieces with
  | nil => exact nofun
  | cons piece rest ih =>
    intro n mem
    rw [pointsOf, List.flatMap_cons, List.mem_append] at mem
    rcases mem with mem | mem
    · exact Piece.points_lt body.1 n mem
    · exact ih body.2.2 n mem

/-- A string literal is read to its value, unless an escape with braces follows that of a high
surrogate. -/
theorem Cut.ofCursor_body {pieces : List Piece} {value : Text} (body : IsBody delimiter pieces)
    (quotes : delimiter = '\'' ∨ delimiter = '"')
    (unmixed : pieces.IsChain fun first second => ¬ Mixes first second)
    (valued : unitsOf pieces = Text.utf16 value) (tail : Text) (line : Nat) :
    ∃ line', Cut.ofCursor ⟨delimiter :: (spell pieces ++ delimiter :: tail), line⟩ =
      ⟨.string (some value), [], ⟨tail, line'⟩⟩ := by
  have quoted : Cut.ofCursor ⟨delimiter :: (spell pieces ++ delimiter :: tail), line⟩ =
      Cut.string delimiter ⟨delimiter :: (spell pieces ++ delimiter :: tail), line⟩ := by
    rcases quotes with rfl | rfl <;> rfl
  have enough : (spell pieces).length < (spell pieces ++ delimiter :: tail).length + 1 := by
    rw [List.length_append]
    omega
  obtain ⟨line', read⟩ := StringReading.continueFrom_body body unmixed quotes enough tail
    (Cursor.lineAfter delimiter (spell pieces ++ delimiter :: tail) line) [] []
  refine ⟨line', ?_⟩
  rw [quoted, Cut.string, StringReading.ofCursor, Cursor.advance, read]
  simp [Text.ofUnits?_eq_some (pointsOf_lt body) valued]

end MessageHarvest.Script
