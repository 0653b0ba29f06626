import MessageHarvest.Proofs.Call.Escape
import MessageHarvest.Text.Utf8

/-!
Reading an escape from an input that moves along. What may be digits is measured in bytes, the input
is moved in characters, and numbers are kept in words of 32 bits. The reader decodes the same
escapes, moves behind the escape or not at all, and no number leaves its word.
-/

namespace MessageHarvest.Call

section Words

def word? (n : Nat) : Option Nat := if n < 2 ^ 32 then some n else none

def less? (n m : Nat) : Option Nat := if m ≤ n then some (n - m) else none

def pushDigit? (number : Nat) (c : Char) : Option Nat := do
  word? ((← word? (number * 16)) + Text.hexValue c)

def wordOfDigits? (digits : Text) : Option Nat := digits.foldlM pushDigit? 0

def joinWords? (high low : Nat) : Option Nat := do
  let front ← word? ((← less? high 0xD800) * 0x400)
  word? ((← word? (0x10000 + front)) + (← less? low 0xDC00))

theorem word?_of_lt {n : Nat} (small : n < 2 ^ 32) : word? n = some n := if_pos small

theorem pushDigit?_eq_some {number : Nat} {c : Char}
    (small : number * 16 + Text.hexValue c < 2 ^ 32) :
    pushDigit? number c = some (number * 16 + Text.hexValue c) := by
  have shifted : number * 16 < 2 ^ 32 := Nat.lt_of_le_of_lt (Nat.le_add_right _ _) small
  rw [pushDigit?, word?_of_lt shifted]
  exact word?_of_lt small

theorem foldlM_pushDigit? {number count : Nat} (small : number < 16 ^ count) (digits : Text)
    (few : count + digits.length ≤ 8) :
    digits.foldlM pushDigit? number = some (Text.hexFrom number digits) := by
  induction digits generalizing number count with
  | nil => rfl
  | cons c digits ih =>
    have digit := Text.hexValue_lt c
    have next : number * 16 + Text.hexValue c < 16 ^ (count + 1) := by
      rw [Nat.pow_succ]
      omega
    have bound : 16 ^ (count + 1) ≤ 2 ^ 32 := by
      rw [List.length_cons] at few
      exact Nat.pow_le_pow_right (by decide) (by omega : count + 1 ≤ 8)
    rw [List.foldlM_cons, pushDigit?_eq_some (Nat.lt_of_lt_of_le next bound)]
    refine ih next ?_
    rw [List.length_cons] at few
    omega

theorem wordOfDigits?_eq_some {digits : Text} (few : digits.length ≤ 8) :
    wordOfDigits? digits = some (Text.hexNumber digits) := by
  have small : 0 < 16 ^ 0 := Nat.zero_lt_one
  exact foldlM_pushDigit? small digits (by rwa [Nat.zero_add])

theorem less?_of_le {n m : Nat} (enough : m ≤ n) : less? n m = some (n - m) := if_pos enough

theorem joinWords?_eq_some {high low : Nat} (first : Text.isHighSurrogate high = true)
    (second : Text.isLowSurrogate low = true) :
    joinWords? high low = some (Text.joinSurrogates high low) := by
  rw [Text.isHighSurrogate_iff] at first
  rw [Text.isLowSurrogate_iff] at second
  obtain ⟨front, rfl⟩ := Nat.exists_eq_add_of_le first.1
  obtain ⟨back, rfl⟩ := Nat.exists_eq_add_of_le second.1
  have shifted : front * 0x400 < 2 ^ 32 := by omega
  have sum : 0x10000 + front * 0x400 < 2 ^ 32 := by omega
  have total : 0x10000 + front * 0x400 + back < 2 ^ 32 := by omega
  unfold joinWords? Text.joinSurrogates
  rw [less?_of_le first.1, less?_of_le second.1, Nat.add_sub_cancel_left, Nat.add_sub_cancel_left]
  simp only [Option.bind_eq_bind, Option.bind_some, word?_of_lt shifted, word?_of_lt sum,
    word?_of_lt total]

end Words

structure Reading where
  read : Option Char
  input : Text
  deriving Repr, DecidableEq

namespace Reading

def ofEscape (input : Text) : Option (Char × Text) → Reading
  | some (c, after) => ⟨some c, after⟩
  | none => ⟨none, input⟩

def areDigits (size : Nat) (text : Text) : Bool :=
  (Utf8.encode text).length = size && text.all Text.isHexDigit

def hex? (input : Text) : Option Reading :=
  if areDigits 2 (input.take 2) then
    (wordOfDigits? (input.take 2)).map fun unit => ⟨some (charOfUnit unit), input.drop 2⟩
  else some ⟨none, input⟩

/-- Digits between braces. The closing brace is looked for as many characters behind the opening one
as there are bytes between them. -/
def braced? (input : Text) : Option Reading :=
  let body := (input.drop 1).takeWhile (· != '\x7d')
  let size := (Utf8.encode body).length
  if input[size + 1]? = some '\x7d' ∧ 0 < size ∧ size ≤ 6 ∧ areDigits size body = true then
    (wordOfDigits? body).map fun unit =>
      if Text.isScalar unit then ⟨some (Char.ofNat unit), input.drop (size + 2)⟩ else ⟨none, input⟩
  else some ⟨none, input⟩

def lowAhead? (input : Text) : Option (Option Nat) :=
  if input.take 2 = ['\\', 'u'] ∧ areDigits 4 ((input.drop 2).take 4) = true then
    (wordOfDigits? ((input.drop 2).take 4)).map fun unit =>
      if Text.isLowSurrogate unit then some unit else none
  else some none

/-- Once the digits have been read the input has moved, whatever becomes of a pair. -/
def fourDigits? (input : Text) : Option Reading :=
  if areDigits 4 (input.take 4) then do
    let unit ← wordOfDigits? (input.take 4)
    if Text.isHighSurrogate unit then
      match ← lowAhead? (input.drop 4) with
      | some low => do
          let joined ← joinWords? unit low
          return ⟨if Text.isScalar joined then some (Char.ofNat joined) else none,
            (input.drop 4).drop 6⟩
      | none => return ⟨some (charOfUnit unit), input.drop 4⟩
    else return ⟨some (charOfUnit unit), input.drop 4⟩
  else some ⟨none, input⟩

def unicode? (input : Text) : Option Reading :=
  if input.head? = some '\x7b' then braced? input else fourDigits? input

variable {input : Text}

theorem encodeChar_of_isHexDigit {c : Char} (digit : Text.isHexDigit c = true) :
    (Utf8.encodeChar c).length = 1 := by
  have bound (low high : Char) (within : low ≤ c ∧ c ≤ high) : c.toNat ≤ high.toNat := within.2
  have ascii : c.toNat < 0x80 := by
    unfold Text.isHexDigit Text.hexDigit? at digit
    split at digit
    · rename_i within
      exact Nat.lt_of_le_of_lt (bound _ _ within) (by decide)
    · split at digit
      · rename_i within
        exact Nat.lt_of_le_of_lt (bound _ _ within) (by decide)
      · split at digit
        · rename_i within
          exact Nat.lt_of_le_of_lt (bound _ _ within) (by decide)
        · cases digit
  unfold Utf8.encodeChar
  rw [if_pos ascii]
  rfl

theorem length_encode_of_allHex {digits : Text} (hex : Text.AllHex digits) :
    (Utf8.encode digits).length = digits.length := by
  induction digits with
  | nil => rfl
  | cons c digits ih =>
    obtain ⟨first, others⟩ := hex.of_cons
    rw [Utf8.encode, List.flatMap_cons, List.length_append, encodeChar_of_isHexDigit first,
      ← Utf8.encode, ih others, List.length_cons, Nat.add_comm]

theorem areDigits_iff {size : Nat} {text : Text} :
    areDigits size text = true ↔ text.length = size ∧ Text.AllHex text := by
  rw [areDigits, Bool.and_eq_true, decide_eq_true_eq, List.all_eq_true]
  refine and_congr_left fun hex => ?_
  rw [length_encode_of_allHex hex]

theorem takeHex?_eq (count : Nat) (input : Text) :
    Text.takeHex? count 0 input =
      if areDigits count (input.take count) then
        some (Text.hexNumber (input.take count), input.drop count)
      else none := by
  split
  · rename_i here
    obtain ⟨length, hex⟩ := areDigits_iff.1 here
    have whole := (List.take_append_drop count input).symm
    exact takeHex?_hexNumber_iff.2 ⟨_, whole, length, hex, rfl⟩
  · rename_i other
    refine Option.eq_none_iff_forall_not_mem.2 fun ⟨unit, after⟩ found => other ?_
    obtain ⟨digits, rfl, rfl, hex, -⟩ := takeHex?_hexNumber_iff.1 found
    rw [List.take_left]
    exact areDigits_iff.2 ⟨rfl, hex⟩

theorem wordOfDigits?_take {count : Nat} (few : count ≤ 8) (input : Text) :
    wordOfDigits? (input.take count) = some (Text.hexNumber (input.take count)) :=
  wordOfDigits?_eq_some (Nat.le_trans (List.length_take_le count input) few)

theorem hex?_eq (input : Text) : hex? input = some (ofEscape input (hexEscape? input)) := by
  rw [hex?, hexEscape?, takeHex?_eq, wordOfDigits?_take (by decide)]
  split <;> rfl

theorem takeWhile_digits {digits after : Text} (hex : Text.AllHex digits) :
    (digits ++ '\x7d' :: after).takeWhile (· != '\x7d') = digits := by
  have unclosed : ∀ c ∈ digits, (c != '\x7d') = true := by
    intro c mem
    rw [bne_iff_ne]
    rintro rfl
    cases Script.isHexDigit_brace.1.symm.trans (hex _ mem)
  rw [List.takeWhile_append_of_pos unclosed, List.takeWhile_cons_of_neg (by decide), List.append_nil]

theorem exists_of_getElem?_length {body text : Text} {c : Char} (front : body <+: text)
    (next : text[body.length]? = some c) : ∃ after, text = body ++ c :: after := by
  obtain ⟨behind, rfl⟩ := front
  rw [List.getElem?_append_right (Nat.le_refl _), Nat.sub_self, ← List.head?_eq_getElem?,
    List.head?_eq_some_iff] at next
  obtain ⟨after, rfl⟩ := next
  exact ⟨after, rfl⟩

theorem braced?_eq (rest : Text) :
    braced? ('\x7b' :: rest) = some (ofEscape ('\x7b' :: rest) (bracedEscape? rest)) := by
  by_cases here : ∃ digits after, rest = digits ++ '\x7d' :: after ∧ Text.AllHex digits
  · obtain ⟨digits, after, rfl, hex⟩ := here
    have size := length_encode_of_allHex hex
    have closed : ('\x7b' :: (digits ++ '\x7d' :: after))[digits.length + 1]? = some '\x7d' := by
      simp
    have dropped : ('\x7b' :: (digits ++ '\x7d' :: after)).drop (digits.length + 2) = after := by
      simp
    have measured : areDigits digits.length digits = true := areDigits_iff.2 ⟨rfl, hex⟩
    rw [braced?, bracedEscape?_digits hex]
    simp only [List.drop_succ_cons, List.drop_zero, takeWhile_digits hex, size, closed, dropped,
      measured, and_true, true_and]
    by_cases fits : 0 < digits.length ∧ digits.length ≤ 6
    · rw [if_pos fits, wordOfDigits?_eq_some (by omega), Option.map_some]
      simp only [fits, true_and]
      split <;> rfl
    · rw [if_neg fits, if_neg fun both => fits ⟨both.1, both.2.1⟩]
      rfl
  · have none : bracedEscape? rest = none := by
      refine Option.eq_none_iff_forall_not_mem.2 fun ⟨c, after⟩ found => ?_
      obtain ⟨digits, whole, -, -, hex, -⟩ := bracedEscape?_eq_some_iff.1 found
      exact here ⟨digits, after, whole, hex⟩
    rw [none, braced?]
    refine if_neg ?_
    rintro ⟨closed, -, -, measured⟩
    obtain ⟨length, hex⟩ := areDigits_iff.1 measured
    rw [← length, List.getElem?_cons_succ] at closed
    obtain ⟨after, whole⟩ := exists_of_getElem?_length (List.takeWhile_prefix _) closed
    exact here ⟨_, after, whole, hex⟩

theorem lowAhead?_eq (input : Text) :
    lowAhead? input = some ((lowSurrogate? input).map Prod.fst) := by
  by_cases escape : input.take 2 = ['\\', 'u']
  · obtain ⟨rest, rfl⟩ : ∃ rest, input = '\\' :: 'u' :: rest :=
      ⟨input.drop 2, by rw [← List.take_append_drop 2 input, escape]; rfl⟩
    have dropped : ('\\' :: 'u' :: rest).drop 2 = rest := rfl
    rw [lowAhead?, lowSurrogate?, dropped, takeHex?_eq, wordOfDigits?_take (by decide)]
    by_cases here : areDigits 4 (rest.take 4) = true
    · rw [if_pos ⟨escape, here⟩, if_pos here]
      cases second : Text.isLowSurrogate (Text.hexNumber (rest.take 4)) <;> simp [second]
    · rw [if_neg fun both => here both.2, if_neg here]
      rfl
  · have none : lowSurrogate? input = none := by
      refine Option.eq_none_iff_forall_not_mem.2 ?_
      rintro ⟨low, after⟩ found
      obtain ⟨digits, rfl, -⟩ := lowSurrogate?_eq_some_iff.1 found
      exact escape rfl
    rw [lowAhead?, if_neg fun both => escape both.1, none]
    rfl

theorem drop_of_lowSurrogate? {low : Nat} {after : Text}
    (found : lowSurrogate? input = some (low, after)) : input.drop 6 = after := by
  obtain ⟨digits, rfl, four, -⟩ := lowSurrogate?_eq_some_iff.1 found
  rw [List.drop_succ_cons, List.drop_succ_cons, ← four, List.drop_left]

theorem fourDigits?_eq (input : Text) :
    fourDigits? input = some (ofEscape input (fourDigitEscape? input)) := by
  rw [fourDigits?, fourDigitEscape?, takeHex?_eq, wordOfDigits?_take (by decide), lowAhead?_eq]
  split
  · simp only [Option.bind_eq_bind, Option.bind_some]
    split
    · rename_i first
      cases completed : lowSurrogate? (input.drop 4) with
      | none => rfl
      | some found =>
        obtain ⟨low, behind⟩ := found
        obtain ⟨-, -, -, -, -, second⟩ := lowSurrogate?_eq_some_iff.1 completed
        simp only [Option.map_some, joinWords?_eq_some first second, Option.bind_some,
          Text.isScalar_joinSurrogates first second, if_true, drop_of_lowSurrogate? completed]
        rfl
    · rfl
  · rfl

theorem unicode?_eq (input : Text) :
    unicode? input = some (ofEscape input (unicodeEscape? input)) := by
  rw [unicode?]
  split
  · rename_i brace
    obtain ⟨rest, rfl⟩ := List.head?_eq_some_iff.1 brace
    exact braced?_eq rest
  · rename_i other
    rw [unicodeEscape?_of_not_brace other]
    exact fourDigits?_eq input

end Reading

/-- The readers of escapes decode the escapes of their forms and no other texts. With the input in
their hands they move it behind what they have decoded, or leave it where it is if they decode
nothing, and no number on the way leaves its word. -/
theorem escapes_consumed (input : Text) :
    Reading.hex? input = some (Reading.ofEscape input (hexEscape? input)) ∧
      Reading.unicode? input = some (Reading.ofEscape input (unicodeEscape? input)) ∧
      (∀ c after, hexEscape? input = some (c, after) ↔
        ∃ taken, input = taken ++ after ∧ HexEscape c taken) ∧
      (hexEscape? input = none ↔
        ∀ digits after, digits.length = 2 → Text.AllHex digits → input ≠ digits ++ after) ∧
      (∀ c after, unicodeEscape? input = some (c, after) ↔
        ∃ taken, input = taken ++ after ∧ UnicodeEscape c after taken) ∧
      (unicodeEscape? input = none ↔
        ∀ digits after, Text.AllHex digits →
          (digits.length = 4 → input ≠ digits ++ after) ∧
            (digits ≠ [] → digits.length ≤ 6 → Text.isScalar (Text.hexNumber digits) = true →
              input ≠ '\x7b' :: (digits ++ '\x7d' :: after))) :=
  ⟨Reading.hex?_eq input, Reading.unicode?_eq input, fun _ _ => hexEscape?_eq_some_iff,
    hexEscape?_eq_none_iff, fun _ _ => unicodeEscape?_eq_some_iff, unicodeEscape?_eq_none_iff⟩

/-- With a character of two bytes between the braces it is the brace after them that is found. -/
example : Reading.unicode? ['\x7b', Char.ofNat 0xE9, '\x7d', '\x7d'] =
    some ⟨none, ['\x7b', Char.ofNat 0xE9, '\x7d', '\x7d']⟩ := by
  decide +kernel

end MessageHarvest.Call
