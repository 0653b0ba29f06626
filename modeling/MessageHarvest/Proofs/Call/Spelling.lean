import MessageHarvest.Proofs.Call.Decoding

namespace MessageHarvest.Call

open Script (Piece lineEnds)

def letterEscapes : List (Char × Char) :=
  [('n', '\n'), ('r', '\r'), ('t', '\t'), ('b', Char.ofNat 0x08), ('f', Char.ofNat 0x0C),
    ('v', Char.ofNat 0x0B)]

structure MeansItself (c : Char) : Prop where
  letter : c ∉ letterEscapes.map Prod.fst
  zero : c ≠ '0'
  hex : c ≠ 'x'
  unicode : c ≠ 'u'
  terminator : Script.isLineTerminator c = false

inductive Writes (c : Char) : (written after : Text) → Prop
  | itself {after : Text} (plain : c ≠ '\\') : Writes c [c] after
  | letter {letter : Char} {after : Text} (denotes : (letter, c) ∈ letterEscapes) :
      Writes c ['\\', letter] after
  | nul {after : Text} (zero : c.toNat = 0) (free : ∀ d ∈ after.head?, d.isDigit = false) :
      Writes c ['\\', '0'] after
  | hexPair {digits after : Text} (two : digits.length = 2) (hex : Text.AllHex digits)
      (denotes : Text.hexNumber digits = c.toNat) : Writes c ('\\' :: 'x' :: digits) after
  | fourDigits {digits after : Text} (four : digits.length = 4) (hex : Text.AllHex digits)
      (denotes : Text.hexNumber digits = c.toNat) : Writes c ('\\' :: 'u' :: digits) after
  | surrogates {high low after : Text} (four : high.length = 4) (hex : Text.AllHex high)
      (four' : low.length = 4) (hex' : Text.AllHex low)
      (denote : [Text.hexNumber high, Text.hexNumber low] = Text.unitsOfPoint c.toNat) :
      Writes c ('\\' :: 'u' :: (high ++ '\\' :: 'u' :: low)) after
  | braced {digits after : Text} (some : digits ≠ []) (few : digits.length ≤ 6)
      (hex : Text.AllHex digits) (denotes : Text.hexNumber digits = c.toNat) :
      Writes c ('\\' :: 'u' :: '\x7b' :: (digits ++ ['\x7d'])) after
  | backslash {after : Text} (meant : MeansItself c) : Writes c ['\\', c] after

/-- A text and a way to write it, with line continuations anywhere between its characters. A carriage
return that continues a line takes a line feed after it along. -/
inductive Spelling : (value written : Text) → Prop
  | nil : Spelling [] []
  | character {c : Char} {value written rest : Text} (writes : Writes c written rest)
      (spelling : Spelling value rest) : Spelling (c :: value) (written ++ rest)
  | continuation {terminator value rest : Text} (ends : terminator ∈ lineEnds)
      (apart : terminator = ['\r'] → rest.head? ≠ some '\n') (spelling : Spelling value rest) :
      Spelling value ('\\' :: (terminator ++ rest))

variable {c : Char} {value written after : Text}

theorem MeansItself.letterValue (h : MeansItself c) : Piece.letterValue c = c := by
  have other := h.letter
  simp only [letterEscapes, List.map_cons, List.map_nil, List.mem_cons, List.not_mem_nil, or_false,
    not_or] at other
  simp [Piece.letterValue, other]

theorem unescape_letter {letter : Char} (denotes : (letter, c) ∈ letterEscapes) :
    unescape ('\\' :: letter :: after) = c :: unescape after := by
  rw [unescape_escape]
  simp only [letterEscapes, List.mem_cons, List.not_mem_nil, or_false, Prod.mk.injEq] at denotes
  rcases denotes with ⟨rfl, rfl⟩ | ⟨rfl, rfl⟩ | ⟨rfl, rfl⟩ | ⟨rfl, rfl⟩ | ⟨rfl, rfl⟩ | ⟨rfl, rfl⟩ <;>
    rfl

theorem unescape_surrogates {high low : Text} (four : high.length = 4) (hex : Text.AllHex high)
    (four' : low.length = 4) (hex' : Text.AllHex low)
    (denote : [Text.hexNumber high, Text.hexNumber low] = Text.unitsOfPoint c.toNat) :
    unescape ('\\' :: 'u' :: (high ++ '\\' :: 'u' :: low) ++ after) = c :: unescape after := by
  rcases Text.units_of_isScalar (Text.isScalar_toNat c) with
    alone | ⟨first, second, isHigh, isLow, joined, pair⟩
  · rw [alone] at denote
    cases congrArg List.length denote
  · rw [pair] at denote
    obtain ⟨rfl, rest⟩ := List.cons.inj denote
    obtain ⟨rfl, -⟩ := List.cons.inj rest
    have whole : '\\' :: 'u' :: (high ++ '\\' :: 'u' :: low) ++ after =
        (Piece.fourDigits high).text ++ ((Piece.fourDigits low).text ++ after) := by
      simp [Piece.text]
    have formed : (Piece.fourDigits high).Formed '"' := ⟨four, hex⟩
    rw [whole, unescape_pair formed ⟨four', hex'⟩ isHigh isLow, ← joined, Char.ofNat_toNat]

theorem unescape_point {piece : Piece} {n : Nat} (formed : piece.Formed '"')
    (fits : piece.Fits after) (alone : Alone piece) (point : piece.points = [n])
    (denotes : n = c.toNat) : unescape (piece.text ++ after) = c :: unescape after := by
  rw [unescape_alone formed fits alone, point, List.map_singleton, denotes, Char.ofNat_toNat]
  rfl

theorem unescape_writes (writes : Writes c written after) :
    unescape (written ++ after) = c :: unescape after := by
  have scalar := Text.isScalar_toNat c
  cases writes with
  | itself plain => exact unescape_cons plain after
  | letter denotes => exact unescape_letter denotes
  | nul zero free => exact @unescape_point _ _ .nul _ trivial free trivial rfl zero.symm
  | @hexPair digits _ two hex denotes =>
    exact @unescape_point _ _ (.hexPair digits) _ ⟨two, hex⟩ trivial trivial rfl denotes
  | @fourDigits digits _ four hex denotes =>
    rw [← denotes] at scalar
    exact @unescape_point _ _ (.fourDigits digits) _ ⟨four, hex⟩ trivial scalar rfl denotes
  | surrogates four hex four' hex' denote => exact unescape_surrogates four hex four' hex' denote
  | @braced digits _ some few hex denotes =>
    rw [← denotes] at scalar
    have small : Text.hexNumber digits < 0x110000 := denotes ▸ Text.toNat_lt c
    exact @unescape_point _ _ (.braced digits) _ ⟨some, hex, small⟩ trivial ⟨few, scalar⟩ rfl denotes
  | backslash meant =>
    rw [List.cons_append, unescape_escape, List.singleton_append,
      decodeEscape_letter meant.zero meant.hex meant.unicode meant.terminator, meant.letterValue]
    rfl

/-- Decoding finds a text again, in whichever way its characters are written and wherever lines are
continued between them. -/
theorem unescape_spelling (spelling : Spelling value written) : unescape written = value := by
  induction spelling with
  | nil => rfl
  | character writes _ ih => rw [unescape_writes writes, ih]
  | continuation ends apart _ ih =>
    rw [unescape_escape, decodeEscape_lineEnd ends apart, ih]
    rfl

theorem unescape_spelling_everyForm :
    let value : Text := ['\n', Char.ofNat 0, Char.ofNat 0xE9, Char.ofNat 0x20AC, Char.ofNat 0x1F600,
      Char.ofNat 0x1F600, '\'', '\\', '0']
    let written : Text :=
      ['\\', 'n'] ++ (['\\', '0'] ++ ('\\' :: (['\r'] ++ ('\\' :: 'x' :: "e9".toList ++
        ('\\' :: 'u' :: "20Ac".toList ++
        ('\\' :: 'u' :: ("D83d".toList ++ '\\' :: 'u' :: "dE00".toList) ++
        ('\\' :: 'u' :: '\x7b' :: ("01f600".toList ++ ['\x7d']) ++ ('\\' :: (['\r', '\n'] ++
        (['\\', '\''] ++ (['\\', '\\'] ++ (['0'] ++ []))))))))))))
    written = "\\n\\0\\\r\\xe9\\u20Ac\\uD83d\\udE00\\u\x7b01f600\x7d\\\r\n\\'\\\\0".toList ∧
      Spelling value written ∧ unescape written = value := by
  intro value written
  have spelling : Spelling value written :=
    .character (.letter (by decide)) <| .character (.nul rfl (by rintro _ ⟨⟩; rfl)) <|
      .continuation (by decide) (by decide) <|
      .character (.hexPair rfl (by decide) (by decide)) <|
      .character (.fourDigits rfl (by decide) (by decide)) <|
      .character (.surrogates rfl (by decide) rfl (by decide) (by decide)) <|
      .character (.braced (by decide) (by decide) (by decide) (by decide)) <|
      .continuation (by decide) (by decide) <|
      .character (.backslash ⟨by decide, by decide, by decide, by decide, by decide⟩) <|
      .character (.backslash ⟨by decide, by decide, by decide, by decide, by decide⟩) <|
      .character (.itself (by decide)) .nil
  exact ⟨by decide, spelling, unescape_spelling spelling⟩

end MessageHarvest.Call
