import MessageHarvest.Proofs.Call.Unescape
import MessageHarvest.Proofs.Script.BodyReading

namespace MessageHarvest.Call

open Script (Piece IsBody Mixes spell unitsOf spell_cons unitsOf_cons unitsOf_point)

variable {delimiter : Char} {after digits : Text}

section Escapes

theorem charOfUnit_of_isScalar {n : Nat} (scalar : Text.isScalar n = true) :
    charOfUnit n = Char.ofNat n :=
  if_pos scalar

theorem decodeEscape_letter {c : Char} (zero : c ≠ '0') (hex : c ≠ 'x') (unicode : c ≠ 'u')
    (terminator : Script.isLineTerminator c = false) :
    decodeEscape (c :: after) = ([Piece.letterValue c], after) := by
  unfold decodeEscape
  split
  case h_1 none => cases none
  case h_8 same => exact absurd (List.cons.inj same).1 hex
  case h_9 same => exact absurd (List.cons.inj same).1 unicode
  case h_10 same =>
    obtain ⟨rfl, -⟩ := List.cons.inj same
    cases terminator
  case h_11 newline return' tab backspace feed vertical _ _ _ same =>
    obtain ⟨rfl, rfl⟩ := List.cons.inj same
    have within : ¬ (c = '\r' || c = '\n' || c.toNat = 0x2028 || c.toNat = 0x2029) = true := by
      simp only [Script.isLineTerminator, Bool.or_eq_false_iff] at terminator
      simp [terminator]
    rw [if_neg zero, if_neg within, Piece.letterValue, if_neg newline, if_neg return', if_neg tab,
      if_neg backspace, if_neg feed, if_neg vertical]
  all_goals
    rename_i same
    obtain ⟨rfl, rfl⟩ := List.cons.inj same
    rfl

theorem decodeEscape_nul (fits : Piece.nul.Fits after) :
    decodeEscape ('0' :: after) = ([Char.ofNat 0], after) := by
  cases after with
  | nil => rfl
  | cons c after =>
    have digit : c.isDigit = false := fits c rfl
    simp [decodeEscape, digit]

theorem isScalar_hexPair (two : digits.length = 2) :
    Text.isScalar (Text.hexNumber digits) = true := by
  have small := Text.hexNumber_lt digits
  rw [two] at small
  rw [Text.isScalar_iff]
  omega

theorem decodeEscape_hexPair (formed : (Piece.hexPair digits).Formed delimiter) :
    decodeEscape ('x' :: (digits ++ after)) = ([Char.ofNat (Text.hexNumber digits)], after) := by
  obtain ⟨two, hex⟩ := formed
  have taken := Text.takeHex?_append hex after
  rw [two] at taken
  have scalar := isScalar_hexPair two
  rw [decodeEscape, hexEscape?, taken, ← charOfUnit_of_isScalar scalar]
  rfl

theorem unicodeEscape?_of_not_brace {rest : Text} (other : rest.head? ≠ some '\x7b') :
    unicodeEscape? rest = fourDigitEscape? rest := by
  unfold unicodeEscape?
  split
  · exact absurd rfl other
  · rfl

theorem head?_hex_ne_brace (hex : Text.AllHex digits) (some : digits ≠ []) :
    (digits ++ after).head? ≠ Option.some '\x7b' := by
  obtain ⟨d, digits, rfl⟩ := List.exists_cons_of_ne_nil some
  rintro ⟨⟩
  cases Script.isHexDigit_brace.2.symm.trans hex.of_cons.1

theorem unicodeEscape?_digits (four : digits.length = 4) (hex : Text.AllHex digits) :
    unicodeEscape? (digits ++ after) =
      if Text.isHighSurrogate (Text.hexNumber digits) then
        match lowSurrogate? after with
        | some (low, after) =>
            some (Char.ofNat (Text.joinSurrogates (Text.hexNumber digits) low), after)
        | none => some (charOfUnit (Text.hexNumber digits), after)
      else some (charOfUnit (Text.hexNumber digits), after) := by
  have some : digits ≠ [] := by
    rintro rfl
    cases four
  have read : Text.takeHex? 4 0 (digits ++ after) =
      Option.some (Text.hexNumber digits, after) := by
    rw [← four, Text.takeHex?_append hex]
  calc unicodeEscape? (digits ++ after)
    _ = fourDigitEscape? (digits ++ after) :=
        unicodeEscape?_of_not_brace (head?_hex_ne_brace hex some)
    _ = _ := by
        unfold fourDigitEscape?
        exact read ▸ rfl

theorem decodeEscape_fourDigits (formed : (Piece.fourDigits digits).Formed delimiter)
    (unpaired : Text.isHighSurrogate (Text.hexNumber digits) = true → lowSurrogate? after = none) :
    decodeEscape ('u' :: (digits ++ after)) = ([charOfUnit (Text.hexNumber digits)], after) := by
  rw [decodeEscape, unicodeEscape?_digits formed.1 formed.2]
  split
  · rename_i high
    rw [unpaired high]
    rfl
  · rfl

theorem decodeEscape_pair {low : Text} (formed : (Piece.fourDigits digits).Formed delimiter)
    (formed' : (Piece.fourDigits low).Formed delimiter)
    (first : Text.isHighSurrogate (Text.hexNumber digits) = true)
    (second : Text.isLowSurrogate (Text.hexNumber low) = true) :
    decodeEscape ('u' :: (digits ++ ((Piece.fourDigits low).text ++ after))) =
      ([Char.ofNat (Text.joinSurrogates (Text.hexNumber digits) (Text.hexNumber low))], after) := by
  have completed : lowSurrogate? ((Piece.fourDigits low).text ++ after) =
      some (Text.hexNumber low, after) := by
    rw [Piece.text, List.cons_append, List.cons_append, lowSurrogate?,
      Script.takeHex?_fourDigits formed']
    exact if_pos second
  rw [decodeEscape, unicodeEscape?_digits formed.1 formed.2, if_pos first, completed]
  rfl

theorem bracedEscape?_digits (hex : Text.AllHex digits) :
    bracedEscape? (digits ++ '\x7d' :: after) =
      if 0 < digits.length ∧ digits.length ≤ 6 ∧ Text.isScalar (Text.hexNumber digits) = true then
        some (Char.ofNat (Text.hexNumber digits), after)
      else none := by
  have stops : ∀ d ∈ ('\x7d' :: after).head?, Text.isHexDigit d = false := by
    rintro d ⟨⟩
    exact Script.isHexDigit_brace.1
  rw [bracedEscape?, Text.spanHex_append hex stops, Nat.zero_add]
  rfl

theorem decodeEscape_braced (formed : (Piece.braced digits).Formed delimiter) :
    decodeEscape ('u' :: '\x7b' :: (digits ++ '\x7d' :: after)) =
      if digits.length ≤ 6 ∧ Text.isScalar (Text.hexNumber digits) = true then
        ([Char.ofNat (Text.hexNumber digits)], after)
      else (['u'], '\x7b' :: (digits ++ '\x7d' :: after)) := by
  obtain ⟨some, hex, -⟩ := formed
  have pos : 0 < digits.length := List.length_pos_iff.2 some
  rw [decodeEscape, unicodeEscape?, bracedEscape?_digits hex]
  simp only [pos, true_and]
  split <;> rfl

end Escapes

section Pieces

def Alone : Piece → Prop
  | .fourDigits digits => Text.isScalar (Text.hexNumber digits) = true
  | .braced digits => digits.length ≤ 6 ∧ Text.isScalar (Text.hexNumber digits) = true
  | _ => True

theorem Alone.isScalar {piece : Piece} (alone : Alone piece) (formed : piece.Formed delimiter) {n : Nat}
    (point : piece.points = [n]) : Text.isScalar n = true := by
  cases piece with
  | continuation terminator => cases point
  | plain c =>
    obtain rfl := (List.cons.inj point).1
    exact Text.isScalar_toNat c
  | letter c =>
    obtain rfl := (List.cons.inj point).1
    exact Text.isScalar_toNat _
  | nul =>
    obtain rfl := (List.cons.inj point).1
    rfl
  | hexPair digits =>
    obtain rfl := (List.cons.inj point).1
    exact isScalar_hexPair formed.1
  | fourDigits digits =>
    obtain rfl := (List.cons.inj point).1
    exact alone
  | braced digits =>
    obtain rfl := (List.cons.inj point).1
    exact alone.2

/-- Pieces that are decoded by themselves, but for two escapes of four digits, for a high surrogate and
a low one, that are decoded together. -/
inductive Joined : List Piece → Prop
  | nil : Joined []
  | alone {piece : Piece} {rest : List Piece} (alone : Alone piece) (joined : Joined rest) :
      Joined (piece :: rest)
  | pair {high low : Text} {rest : List Piece}
      (first : Text.isHighSurrogate (Text.hexNumber high) = true)
      (second : Text.isLowSurrogate (Text.hexNumber low) = true) (joined : Joined rest) :
      Joined (.fourDigits high :: .fourDigits low :: rest)

theorem text_braced : (Piece.braced digits).text ++ after =
    '\\' :: 'u' :: '\x7b' :: (digits ++ '\x7d' :: after) := by
  simp [Piece.text]

theorem unescape_pair {low : Text} (formed : (Piece.fourDigits digits).Formed delimiter)
    (formed' : (Piece.fourDigits low).Formed delimiter)
    (first : Text.isHighSurrogate (Text.hexNumber digits) = true)
    (second : Text.isLowSurrogate (Text.hexNumber low) = true) :
    unescape ((Piece.fourDigits digits).text ++ ((Piece.fourDigits low).text ++ after)) =
      Char.ofNat (Text.joinSurrogates (Text.hexNumber digits) (Text.hexNumber low)) ::
        unescape after := by
  rw [Piece.text, List.cons_append, List.cons_append, unescape_escape,
    decodeEscape_pair formed formed' first second]
  rfl

theorem unescape_braced_of_not (formed : (Piece.braced digits).Formed delimiter)
    (undecoded : ¬ (digits.length ≤ 6 ∧ Text.isScalar (Text.hexNumber digits) = true)) :
    unescape ((Piece.braced digits).text ++ after) =
      'u' :: '\x7b' :: (digits ++ '\x7d' :: unescape after) := by
  have unescaped : '\\' ∉ digits := by
    intro mem
    cases formed.2.1 _ mem
  rw [text_braced, unescape_escape, decodeEscape_braced formed, if_neg undecoded,
    unescape_cons (by decide), unescape_append unescaped, unescape_cons (by decide)]
  rfl

theorem unescape_alone {piece : Piece} (formed : piece.Formed delimiter) (fits : piece.Fits after)
    (alone : Alone piece) :
    unescape (piece.text ++ after) = piece.points.map Char.ofNat ++ unescape after := by
  cases piece with
  | plain c =>
    rw [Piece.text, Piece.points, List.singleton_append, unescape_cons formed.2.1, List.map_singleton,
      Char.ofNat_toNat]
    rfl
  | letter c =>
    obtain ⟨digit, hex, unicode, terminator⟩ := formed
    have zero : c ≠ '0' := by
      rintro rfl
      cases digit
    rw [Piece.text, List.cons_append, unescape_escape, List.singleton_append,
      decodeEscape_letter zero hex unicode terminator, Piece.points, List.map_singleton,
      Char.ofNat_toNat]
  | nul =>
    rw [Piece.text, List.cons_append, unescape_escape, List.singleton_append,
      decodeEscape_nul fits]
    rfl
  | hexPair digits =>
    rw [Piece.text, List.cons_append, unescape_escape, List.cons_append,
      decodeEscape_hexPair formed]
    rfl
  | fourDigits digits =>
    have unpaired (high : Text.isHighSurrogate (Text.hexNumber digits) = true) :
        lowSurrogate? after = none := by
      rw [Text.not_high_of_isScalar alone] at high
      cases high
    rw [Piece.text, List.cons_append, unescape_escape, List.cons_append,
      decodeEscape_fourDigits formed unpaired, charOfUnit_of_isScalar alone]
    rfl
  | braced digits =>
    have few : digits.length ≤ 6 ∧ Text.isScalar (Text.hexNumber digits) = true := alone
    rw [text_braced, unescape_escape, decodeEscape_braced formed, if_pos few]
    rfl
  | continuation terminator =>
    rw [Piece.text, List.cons_append, unescape_escape, decodeEscape_lineEnd formed fits]
    rfl

theorem lowSurrogate?_eq_none {rest : List Piece} (body : IsBody delimiter rest)
    (apart : ∀ low others, rest = .fourDigits low :: others →
      Text.isLowSurrogate (Text.hexNumber low) = false) :
    lowSurrogate? (spell rest) = none := by
  cases rest with
  | nil => rfl
  | cons next others =>
    obtain ⟨formed, -⟩ := body
    rw [spell_cons]
    by_cases four : ∃ low, next = .fourDigits low
    · obtain ⟨low, rfl⟩ := four
      rw [Piece.text, List.cons_append, List.cons_append, lowSurrogate?,
        Script.takeHex?_fourDigits formed]
      dsimp only
      rw [apart low others rfl]
      rfl
    · by_cases braces : ∃ low, next = .braced low
      · obtain ⟨low, rfl⟩ := braces
        rw [text_braced]
        rfl
      · unfold lowSurrogate?
        split
        · rename_i same
          have notFour (low : Text) (same : next = .fourDigits low) : False := four ⟨low, same⟩
          have notBraced (low : Text) (same : next = .braced low) : False := braces ⟨low, same⟩
          exact absurd same (Piece.text_ne_unicode formed notFour notBraced _)
        · rfl

theorem unescape_of_joined {pieces : List Piece} {value : Text} (joined : Joined pieces)
    (body : IsBody delimiter pieces) (valued : unitsOf pieces = Text.utf16 value) :
    unescape (spell pieces) = value := by
  induction joined generalizing value with
  | nil => exact (Text.utf16_eq_nil_iff.1 valued.symm).symm
  | @alone piece rest alone joined ih =>
    obtain ⟨formed, fits, below⟩ := body
    rw [spell_cons, unescape_alone formed fits alone]
    rcases piece.point_or_continuation with ⟨n, point⟩ | ⟨terminator, rfl⟩
    · rw [unitsOf_point point] at valued
      obtain ⟨tail, behind, rfl⟩ := Text.scalar_of_utf16 (alone.isScalar formed point) valued
      rw [point, ih below behind]
      rfl
    · exact ih below valued
  | @pair high low rest first second joined ih =>
    obtain ⟨formed, -, formed', -, below⟩ := body
    rw [unitsOf_point rfl, unitsOf_point rfl, Text.unitsOfPoint_of_high first,
      Text.unitsOfPoint_of_low second] at valued
    obtain ⟨low', tail, -, behind, rfl⟩ := Text.high_of_utf16 first valued
    obtain ⟨rfl, after⟩ := List.cons.inj behind
    rw [spell_cons, spell_cons, unescape_pair formed formed' first second, ih below after]

theorem unescape_fourDigits {rest : List Piece} (body : IsBody delimiter (.fourDigits digits :: rest))
    (apart : Text.isHighSurrogate (Text.hexNumber digits) = true → ∀ low others,
      rest = .fourDigits low :: others → Text.isLowSurrogate (Text.hexNumber low) = false) :
    unescape (spell (.fourDigits digits :: rest)) =
      charOfUnit (Text.hexNumber digits) :: unescape (spell rest) := by
  obtain ⟨formed, -, below⟩ := body
  rw [spell_cons, Piece.text, List.cons_append, List.cons_append, unescape_escape,
    decodeEscape_fourDigits formed fun high => lowSurrogate?_eq_none below (apart high)]
  rfl

theorem heard_piece {piece : Piece} {rest : List Piece} {n : Nat}
    (body : IsBody delimiter (piece :: rest)) (point : piece.points = [n])
    (apart : ∀ high, piece = .fourDigits high → Text.isHighSurrogate (Text.hexNumber high) = true →
      ∀ low others, rest = .fourDigits low :: others →
        Text.isLowSurrogate (Text.hexNumber low) = false) :
    ∃ heard, unescape (spell (piece :: rest)) = heard ++ unescape (spell rest) ∧
      1 ≤ heard.length ∧ (heard.length = 1 → Text.isScalar n = true → Alone piece) := by
  by_cases alone : Alone piece
  · refine ⟨[Char.ofNat n], ?_, Nat.le_refl 1, fun _ _ => alone⟩
    rw [spell_cons, unescape_alone body.1 body.2.1 alone, point]
    rfl
  · cases piece with
    | fourDigits digits =>
      obtain rfl := (List.cons.inj point).1
      exact ⟨[charOfUnit _], unescape_fourDigits body (apart digits rfl), Nat.le_refl 1,
        fun _ scalar => scalar⟩
    | braced digits =>
      refine ⟨'u' :: '\x7b' :: (digits ++ ['\x7d']), ?_, Nat.succ_pos _, ?_⟩
      · rw [spell_cons, unescape_braced_of_not body.1 alone]
        simp
      · intro one
        cases Nat.succ.inj one
    | _ => exact absurd trivial alone

end Pieces

section Lengths

/-- Nothing of a value is lost in decoding, and where nothing is added the pieces are joined. `behind`
is about the pieces behind a high surrogate that has been decoded by itself. -/
structure Conserves (pieces : List Piece) : Prop where
  whole : ∀ value, unitsOf pieces = Text.utf16 value →
    value.length ≤ (unescape (spell pieces)).length ∧
      ((unescape (spell pieces)).length = value.length → Joined pieces)
  behind : ∀ low value, Text.isLowSurrogate low = true → unitsOf pieces = low :: Text.utf16 value →
    value.length < (unescape (spell pieces)).length

variable {rest : List Piece}

theorem Conserves.pair {high low : Text} (h : Conserves rest)
    (body : IsBody delimiter (.fourDigits high :: .fourDigits low :: rest))
    (first : Text.isHighSurrogate (Text.hexNumber high) = true)
    (second : Text.isLowSurrogate (Text.hexNumber low) = true) :
    Conserves (.fourDigits high :: .fourDigits low :: rest) := by
  have decoded : (unescape (spell (.fourDigits high :: .fourDigits low :: rest))).length =
      (unescape (spell rest)).length + 1 := by
    rw [spell_cons, spell_cons, unescape_pair body.1 body.2.2.1 first second, List.length_cons]
  have units : unitsOf (.fourDigits high :: .fourDigits low :: rest) =
      Text.hexNumber high :: Text.hexNumber low :: unitsOf rest := by
    rw [unitsOf_point rfl, unitsOf_point rfl, Text.unitsOfPoint_of_high first,
      Text.unitsOfPoint_of_low second]
    rfl
  constructor
  · intro value valued
    rw [units] at valued
    obtain ⟨low', tail, -, after, rfl⟩ := Text.high_of_utf16 first valued
    obtain ⟨least, equal⟩ := h.whole tail (List.cons.inj after).2
    rw [decoded]
    exact ⟨Nat.succ_le_succ least, fun same => .pair first second (equal (Nat.succ.inj same))⟩
  · intro low' value second' valued
    rw [units] at valued
    obtain ⟨rfl, -⟩ := List.cons.inj valued
    rw [Text.isHighSurrogate_iff] at first
    rw [Text.isLowSurrogate_iff] at second'
    omega

theorem Conserves.point {piece : Piece} {n : Nat} (h : Conserves rest)
    (body : IsBody delimiter (piece :: rest)) (point : piece.points = [n])
    (apart : ∀ high, piece = .fourDigits high → Text.isHighSurrogate (Text.hexNumber high) = true →
      ∀ low others, rest = .fourDigits low :: others →
        Text.isLowSurrogate (Text.hexNumber low) = false) :
    Conserves (piece :: rest) := by
  obtain ⟨heard, decoded, some, once⟩ := heard_piece body point apart
  have bounded : n < 0x110000 :=
    Piece.points_lt body.1 n (by rw [point]; exact List.mem_singleton_self n)
  constructor
  · intro value valued
    rw [unitsOf_point point] at valued
    rw [decoded, List.length_append]
    rcases Text.point_cases bounded with scalar | high | low
    · obtain ⟨tail, after, rfl⟩ := Text.scalar_of_utf16 scalar valued
      obtain ⟨least, equal⟩ := h.whole tail after
      rw [List.length_cons]
      exact ⟨by omega, fun same => .alone (once (by omega) scalar) (equal (by omega))⟩
    · -- the value has one character for this unit and the next one; decoding makes more of them
      rw [Text.unitsOfPoint_of_high high] at valued
      obtain ⟨low, tail, second, after, rfl⟩ := Text.high_of_utf16 high valued
      have more := h.behind low tail second after
      rw [List.length_cons]
      exact ⟨by omega, fun same => absurd same (by omega)⟩
    · rw [Text.unitsOfPoint_of_low low] at valued
      rw [Text.not_low_of_utf16 valued] at low
      cases low
  · intro low value second valued
    rw [unitsOf_point point] at valued
    rw [decoded, List.length_append]
    obtain ⟨-, after⟩ := Text.eq_of_low_units bounded second valued
    have least := (h.whole value after).1
    omega

theorem Conserves.continuation {terminator : Text} (h : Conserves rest)
    (body : IsBody delimiter (.continuation terminator :: rest)) :
    Conserves (.continuation terminator :: rest) := by
  have same : unescape (spell (.continuation terminator :: rest)) = unescape (spell rest) := by
    rw [spell_cons, unescape_alone body.1 body.2.1 trivial]
    rfl
  constructor
  · intro value valued
    obtain ⟨least, equal⟩ := h.whole value valued
    rw [same]
    exact ⟨least, fun more => .alone trivial (equal more)⟩
  · intro low value second valued
    rw [same]
    exact h.behind low value second valued

theorem conserves_body {pieces : List Piece} (body : IsBody delimiter pieces) :
    Conserves pieces := by
  match pieces with
  | [] =>
    constructor
    · intro value valued
      obtain rfl := Text.utf16_eq_nil_iff.1 valued.symm
      exact ⟨Nat.le_refl 0, fun _ => .nil⟩
    · intro low value _ valued
      cases valued
  | piece :: rest =>
    have below := conserves_body body.2.2
    rcases piece.point_or_continuation with ⟨n, point⟩ | ⟨terminator, rfl⟩
    · by_cases pair : ∃ high low others, piece = .fourDigits high ∧
          rest = .fourDigits low :: others ∧ Text.isHighSurrogate (Text.hexNumber high) = true ∧
            Text.isLowSurrogate (Text.hexNumber low) = true
      · obtain ⟨high, low, others, rfl, rfl, first, second⟩ := pair
        exact (conserves_body body.2.2.2.2).pair body first second
      · refine below.point body point fun high four first low others next => ?_
        rw [← Bool.not_eq_true]
        exact fun second => pair ⟨high, low, others, four, next, first, second⟩
    · exact below.continuation body
  termination_by pieces.length

end Lengths

theorem Joined.unmixed {pieces : List Piece} (joined : Joined pieces) :
    pieces.IsChain fun first second => ¬ Mixes first second := by
  have apart {first : Piece} (low : ∀ digits, first = .fourDigits digits →
      Text.isHighSurrogate (Text.hexNumber digits) = false) (second : Piece) :
      ¬ Mixes first second := by
    intro mixes
    cases first with
    | fourDigits digits =>
      cases second with
      | braced => exact absurd mixes (by rw [Mixes, low digits rfl]; decide)
      | _ => exact mixes
    | _ => exact mixes
  induction joined with
  | nil => exact .nil
  | alone alone joined ih =>
    refine List.isChain_cons.2 ⟨fun next _ => apart ?_ next, ih⟩
    rintro digits rfl
    exact Text.not_high_of_isScalar alone
  | @pair high low rest first second joined ih =>
    refine List.isChain_cons_cons.2 ⟨id, List.isChain_cons.2 ⟨fun next _ => apart ?_ next, ih⟩⟩
    rintro digits ⟨⟩
    rw [Text.isLowSurrogate_iff] at second
    rw [← Bool.not_eq_true, Text.isHighSurrogate_iff]
    omega

/-- Decoding without a parser finds the value of a literal whose pieces are joined, and of no other.
A parser finds the value of these and of further ones. -/
theorem unescape_eq_value_iff {pieces : List Piece} {value : Text}
    (body : IsBody delimiter pieces) (quotes : delimiter = '\'' ∨ delimiter = '"')
    (valued : unitsOf pieces = Text.utf16 value) :
    (unescape (spell pieces) = value ↔ Joined pieces) ∧
      (Joined pieces → pieces.IsChain fun first second => ¬ Mixes first second) ∧
      ((pieces.IsChain fun first second => ¬ Mixes first second) → ∀ tail line, ∃ line',
        Script.Cut.ofCursor ⟨delimiter :: (spell pieces ++ delimiter :: tail), line⟩ =
          ⟨.string (some value), [], ⟨tail, line'⟩⟩) := by
  refine ⟨⟨fun same => ?_, fun joined => unescape_of_joined joined body valued⟩, Joined.unmixed,
    fun unmixed tail line => Script.Cut.ofCursor_body body quotes unmixed valued tail line⟩
  exact ((conserves_body body).whole value valued).2 (congrArg List.length same)

theorem unescape_eq_value_iff_everyForm :
    let pieces : List Piece := [.plain 'a', .letter 'n', .letter '\'', .hexPair "e9".toList,
      .fourDigits "D83d".toList, .fourDigits "dE00".toList, .braced "00041".toList,
      .continuation ['\r', '\n'], .nul, .plain 'z']
    let value : Text :=
      ['a', '\n', '\'', Char.ofNat 0xE9, Char.ofNat 0x1F600, 'A', Char.ofNat 0, 'z']
    IsBody '\'' pieces ∧ unitsOf pieces = Text.utf16 value ∧
      spell pieces = "a\\n\\'\\xe9\\uD83d\\udE00\\u\x7b00041\x7d\\\r\n\\0z".toList ∧
      Joined pieces ∧ unescape (spell pieces) = value := by
  intro pieces value
  have body : IsBody '\'' pieces := by decide
  have valued : unitsOf pieces = Text.utf16 value := by decide +kernel
  have joined : Joined pieces :=
    .alone trivial <| .alone trivial <| .alone trivial <| .alone trivial <| .pair rfl rfl <|
      .alone ⟨by decide, rfl⟩ <| .alone trivial <| .alone trivial <| .alone trivial .nil
  exact ⟨body, valued, by decide, joined, (unescape_eq_value_iff body (.inl rfl) valued).1.2 joined⟩

theorem unescape_ne_value_leadingZeros :
    IsBody '\'' [.braced "0000041".toList] ∧
      unitsOf [.braced "0000041".toList] = Text.utf16 ['A'] ∧
      unescape (spell [.braced "0000041".toList]) = "u\x7b0000041\x7d".toList ∧
      unescape (spell [.braced "0000041".toList]) ≠ ['A'] := by
  decide +kernel

example :
    unitsOf [.fourDigits "d83d".toList, .continuation ['\n'], .fourDigits "de00".toList] =
        Text.utf16 [Char.ofNat 0x1F600] ∧
      unescape "\\ud83d\\\n\\ude00".toList = [replacement, replacement] := by
  decide +kernel

end MessageHarvest.Call
