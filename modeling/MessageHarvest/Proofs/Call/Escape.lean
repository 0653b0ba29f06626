import MessageHarvest.Proofs.Call.Decoding
import Mathlib.Data.List.TakeWhile

namespace MessageHarvest.Text

variable {n high low : Nat}

theorem toNat_of_isScalar (scalar : isScalar n = true) : (Char.ofNat n).toNat = n := by
  rw [isScalar_iff] at scalar
  have valid : n.isValidChar := by
    unfold Nat.isValidChar
    omega
  rw [Char.ofNat, dif_pos valid]
  rfl

theorem isScalar_joinSurrogates (first : isHighSurrogate high = true)
    (second : isLowSurrogate low = true) : isScalar (joinSurrogates high low) = true := by
  rw [isHighSurrogate_iff] at first
  rw [isLowSurrogate_iff] at second
  rw [isScalar_iff]
  unfold joinSurrogates
  omega

theorem unitsOfPoint_eq_pair_iff {c : Char} :
    unitsOfPoint c.toNat = [high, low] ↔
      isHighSurrogate high = true ∧ isLowSurrogate low = true ∧
        joinSurrogates high low = c.toNat := by
  constructor
  · intro pair
    rcases units_of_isScalar (isScalar_toNat c) with
      single | ⟨high', low', first, second, joined, units⟩
    · cases congrArg List.length (single.symm.trans pair)
    · obtain ⟨rfl, rest⟩ := List.cons.inj (units.symm.trans pair)
      obtain ⟨rfl, -⟩ := List.cons.inj rest
      exact ⟨first, second, joined.symm⟩
  · rintro ⟨first, second, joined⟩
    rw [isHighSurrogate_iff] at first
    rw [isLowSurrogate_iff] at second
    unfold joinSurrogates at joined
    have large : ¬ c.toNat < 0x10000 := by omega
    have front : 0xD800 + (c.toNat - 0x10000) / 0x400 = high := by omega
    have back : 0xDC00 + (c.toNat - 0x10000) % 0x400 = low := by omega
    unfold unitsOfPoint
    rw [if_neg large, front, back]

theorem exists_hex_append (text : Text) : ∃ digits rest, text = digits ++ rest ∧ AllHex digits ∧
    ∀ c ∈ rest.head?, isHexDigit c = false := by
  refine ⟨text.takeWhile isHexDigit, text.dropWhile isHexDigit,
    List.takeWhile_append_dropWhile.symm, fun c mem => List.mem_takeWhile_imp mem, fun c mem => ?_⟩
  have stops := List.head?_dropWhile_not isHexDigit text
  rw [Option.mem_def.1 mem] at stops
  simpa using stops

end MessageHarvest.Text

namespace MessageHarvest.Call

variable {rest after digits : Text} {c : Char}

section Forms

def LowFollows (after : Text) : Prop :=
  ∃ low rest, after = '\\' :: 'u' :: (low ++ rest) ∧ low.length = 4 ∧ Text.AllHex low ∧
    Text.isLowSurrogate (Text.hexNumber low) = true

inductive HexEscape (c : Char) : (taken : Text) → Prop
  | mk {digits : Text} (two : digits.length = 2) (hex : Text.AllHex digits)
      (denotes : Text.hexNumber digits = c.toNat) : HexEscape c digits

inductive UnicodeEscape (c : Char) (after : Text) : (taken : Text) → Prop
  | braced {digits : Text} (some : digits ≠ []) (few : digits.length ≤ 6) (hex : Text.AllHex digits)
      (denotes : Text.hexNumber digits = c.toNat) :
      UnicodeEscape c after ('\x7b' :: (digits ++ ['\x7d']))
  | fourDigits {digits : Text} (four : digits.length = 4) (hex : Text.AllHex digits)
      (denotes : Text.hexNumber digits = c.toNat) : UnicodeEscape c after digits
  | pair {high low : Text} (four : high.length = 4) (hex : Text.AllHex high)
      (four' : low.length = 4) (hex' : Text.AllHex low)
      (denote : Text.unitsOfPoint c.toNat = [Text.hexNumber high, Text.hexNumber low]) :
      UnicodeEscape c after (high ++ '\\' :: 'u' :: low)
  | unpaired {digits : Text} (four : digits.length = 4) (hex : Text.AllHex digits)
      (surrogate : Text.isScalar (Text.hexNumber digits) = false)
      (alone : Text.isHighSurrogate (Text.hexNumber digits) = true → ¬ LowFollows after)
      (replaced : c = replacement) : UnicodeEscape c after digits

theorem charOfUnit_toNat (c : Char) : charOfUnit c.toNat = c := by
  rw [charOfUnit_of_isScalar (Text.isScalar_toNat c), Char.ofNat_toNat]

theorem takeHex?_hexNumber_iff {count unit : Nat} :
    Text.takeHex? count 0 rest = some (unit, after) ↔
      ∃ digits, rest = digits ++ after ∧ digits.length = count ∧ Text.AllHex digits ∧
        Text.hexNumber digits = unit :=
  Text.takeHex?_eq_some_iff

theorem hexEscape?_eq_some_iff :
    hexEscape? rest = some (c, after) ↔ ∃ taken, rest = taken ++ after ∧ HexEscape c taken := by
  rw [hexEscape?, Option.map_eq_some_iff]
  constructor
  · rintro ⟨⟨unit, behind⟩, taken, same⟩
    obtain ⟨rfl, rfl⟩ := Prod.mk.inj same
    obtain ⟨digits, rfl, two, hex, rfl⟩ := takeHex?_hexNumber_iff.1 taken
    have scalar := isScalar_hexPair two
    exact ⟨digits, rfl, .mk two hex
      (by rw [charOfUnit_of_isScalar scalar, Text.toNat_of_isScalar scalar])⟩
  · rintro ⟨digits, rfl, two, hex, denotes⟩
    exact ⟨(c.toNat, after), takeHex?_hexNumber_iff.2 ⟨digits, rfl, two, hex, denotes⟩,
      congrArg (·, after) (charOfUnit_toNat c)⟩

theorem bracedEscape?_eq_some_iff :
    bracedEscape? rest = some (c, after) ↔
      ∃ digits, rest = digits ++ '\x7d' :: after ∧ digits ≠ [] ∧ digits.length ≤ 6 ∧
        Text.AllHex digits ∧ Text.hexNumber digits = c.toNat := by
  constructor
  · intro found
    obtain ⟨digits, behind, rfl, hex, stops⟩ := Text.exists_hex_append rest
    rw [bracedEscape?, Text.spanHex_append hex stops] at found
    split at found
    · rename_i count unit behind' read
      obtain ⟨rfl, rest⟩ := Prod.mk.inj read
      obtain ⟨rfl, rfl⟩ := Prod.mk.inj rest
      rw [Option.ite_none_right_eq_some, Nat.zero_add] at found
      obtain ⟨⟨pos, few, scalar⟩, same⟩ := found
      obtain ⟨rfl, rfl⟩ := Prod.mk.inj (Option.some.inj same)
      exact ⟨digits, rfl, List.length_pos_iff.1 pos, few, hex, (Text.toNat_of_isScalar scalar).symm⟩
    · cases found
  · rintro ⟨digits, rfl, some, few, hex, denotes⟩
    rw [bracedEscape?_digits hex, denotes, if_pos ⟨List.length_pos_iff.2 some, few,
      Text.isScalar_toNat c⟩, Char.ofNat_toNat]

theorem lowSurrogate?_eq_some_iff {low : Nat} :
    lowSurrogate? rest = some (low, after) ↔
      ∃ digits, rest = '\\' :: 'u' :: (digits ++ after) ∧ digits.length = 4 ∧ Text.AllHex digits ∧
        Text.hexNumber digits = low ∧ Text.isLowSurrogate low = true := by
  constructor
  · intro found
    unfold lowSurrogate? at found
    split at found
    · split at found
      · rename_i taken
        rw [Option.ite_none_right_eq_some] at found
        obtain ⟨second, same⟩ := found
        obtain ⟨rfl, rfl⟩ := Prod.mk.inj (Option.some.inj same)
        obtain ⟨digits, rfl, four, hex, denotes⟩ := takeHex?_hexNumber_iff.1 taken
        exact ⟨digits, rfl, four, hex, denotes, second⟩
      · cases found
    · cases found
  · rintro ⟨digits, rfl, four, hex, denotes, second⟩
    rw [lowSurrogate?, takeHex?_hexNumber_iff.2 ⟨digits, rfl, four, hex, denotes⟩]
    exact if_pos second

theorem lowSurrogate?_eq_none_iff : lowSurrogate? rest = none ↔ ¬ LowFollows rest := by
  constructor
  · rintro none ⟨low, behind, rfl, four, hex, second⟩
    cases none.symm.trans (lowSurrogate?_eq_some_iff.2 ⟨low, rfl, four, hex, rfl, second⟩)
  · intro without
    cases found : lowSurrogate? rest with
    | none => rfl
    | some low =>
      obtain ⟨digits, whole, four, hex, same, second⟩ := lowSurrogate?_eq_some_iff.1 found
      exact absurd ⟨digits, _, whole, four, hex, same ▸ second⟩ without

theorem fourDigitEscape?_eq_some (found : fourDigitEscape? rest = some (c, after)) :
    ∃ taken, rest = taken ++ after ∧ UnicodeEscape c after taken := by
  unfold fourDigitEscape? at found
  split at found
  · cases found
  · rename_i unit behind taken
    obtain ⟨digits, rfl, four, hex, rfl⟩ := takeHex?_hexNumber_iff.1 taken
    have single
        (alone : Text.isHighSurrogate (Text.hexNumber digits) = true → ¬ LowFollows behind) :
        UnicodeEscape (charOfUnit (Text.hexNumber digits)) behind digits := by
      cases scalar : Text.isScalar (Text.hexNumber digits) with
      | true =>
        refine .fourDigits four hex ?_
        rw [charOfUnit_of_isScalar scalar, Text.toNat_of_isScalar scalar]
      | false => exact .unpaired four hex scalar alone (if_neg (by rw [scalar]; decide))
    split at found
    · rename_i first
      split at found
      · rename_i low behind' completed
        obtain ⟨rfl, rfl⟩ := Prod.mk.inj (Option.some.inj found)
        obtain ⟨digits', rfl, four', hex', rfl, second⟩ := lowSurrogate?_eq_some_iff.1 completed
        have denote := Text.unitsOfPoint_eq_pair_iff.2 ⟨first, second,
          (Text.toNat_of_isScalar (Text.isScalar_joinSurrogates first second)).symm⟩
        exact ⟨_, by simp, .pair four hex four' hex' denote⟩
      · rename_i none
        obtain ⟨rfl, rfl⟩ := Prod.mk.inj (Option.some.inj found)
        exact ⟨digits, rfl, single fun _ => lowSurrogate?_eq_none_iff.1 none⟩
    · rename_i other
      obtain ⟨rfl, rfl⟩ := Prod.mk.inj (Option.some.inj found)
      exact ⟨digits, rfl, single fun first => absurd first other⟩

theorem unicodeEscape?_of_form {taken : Text} (form : UnicodeEscape c after taken) :
    unicodeEscape? (taken ++ after) = some (c, after) := by
  cases form with
  | @braced digits some few hex denotes =>
    have whole : '\x7b' :: (digits ++ ['\x7d']) ++ after =
        '\x7b' :: (digits ++ '\x7d' :: after) := by
      simp
    rw [whole]
    exact bracedEscape?_eq_some_iff.2 ⟨digits, rfl, some, few, hex, denotes⟩
  | fourDigits four hex denotes =>
    have scalar := Text.isScalar_toNat c
    rw [← denotes] at scalar
    have single : ¬ Text.isHighSurrogate (Text.hexNumber taken) = true := by
      rw [Text.not_high_of_isScalar scalar]
      exact Bool.false_ne_true
    rw [unicodeEscape?_digits four hex, if_neg single, denotes, charOfUnit_toNat]
  | @pair high low four hex four' hex' denote =>
    obtain ⟨first, second, joined⟩ := Text.unitsOfPoint_eq_pair_iff.1 denote
    have completed : lowSurrogate? ('\\' :: 'u' :: (low ++ after)) =
        some (Text.hexNumber low, after) :=
      lowSurrogate?_eq_some_iff.2 ⟨low, rfl, four', hex', rfl, second⟩
    rw [List.append_assoc, List.cons_append, List.cons_append, unicodeEscape?_digits four hex,
      if_pos first, completed]
    dsimp only
    rw [joined, Char.ofNat_toNat]
  | unpaired four hex surrogate alone replaced =>
    have lost : charOfUnit (Text.hexNumber taken) = c := by
      rw [replaced, charOfUnit, surrogate]
      rfl
    rw [unicodeEscape?_digits four hex]
    split
    · rename_i first
      rw [lowSurrogate?_eq_none_iff.2 (alone first), lost]
    · rw [lost]

theorem unicodeEscape?_eq_some_iff :
    unicodeEscape? rest = some (c, after) ↔
      ∃ taken, rest = taken ++ after ∧ UnicodeEscape c after taken := by
  constructor
  · intro found
    unfold unicodeEscape? at found
    split at found
    · obtain ⟨digits, rfl, some, few, hex, denotes⟩ := bracedEscape?_eq_some_iff.1 found
      exact ⟨_, by simp, .braced some few hex denotes⟩
    · exact fourDigitEscape?_eq_some found
  · rintro ⟨taken, rfl, form⟩
    exact unicodeEscape?_of_form form

theorem hexEscape?_eq_none_iff :
    hexEscape? rest = none ↔
      ∀ digits after, digits.length = 2 → Text.AllHex digits → rest ≠ digits ++ after := by
  constructor
  · rintro none digits after two hex rfl
    have scalar := isScalar_hexPair two
    have found : hexEscape? (digits ++ after) = some (_, after) := hexEscape?_eq_some_iff.2
      ⟨digits, rfl, .mk two hex (Text.toNat_of_isScalar scalar).symm⟩
    cases none.symm.trans found
  · intro without
    refine Option.eq_none_iff_forall_not_mem.2 fun ⟨c, after⟩ found => ?_
    obtain ⟨digits, whole, two, hex, -⟩ := hexEscape?_eq_some_iff.1 found
    exact without digits after two hex whole

theorem unicodeEscape?_eq_none_iff :
    unicodeEscape? rest = none ↔
      ∀ digits after, Text.AllHex digits →
        (digits.length = 4 → rest ≠ digits ++ after) ∧
          (digits ≠ [] → digits.length ≤ 6 → Text.isScalar (Text.hexNumber digits) = true →
            rest ≠ '\x7b' :: (digits ++ '\x7d' :: after)) := by
  constructor
  · intro none digits after hex
    constructor
    · rintro four rfl
      rw [unicodeEscape?_digits four hex] at none
      split at none
      · split at none <;> cases none
      · cases none
    · rintro some few scalar rfl
      cases none.symm.trans (bracedEscape?_eq_some_iff.2
        ⟨digits, rfl, some, few, hex, (Text.toNat_of_isScalar scalar).symm⟩)
  · intro without
    refine Option.eq_none_iff_forall_not_mem.2 fun ⟨c, after⟩ found => ?_
    obtain ⟨taken, rfl, form⟩ := unicodeEscape?_eq_some_iff.1 found
    cases form with
    | @braced digits some few hex denotes =>
      have scalar := Text.isScalar_toNat c
      rw [← denotes] at scalar
      exact (without digits after hex).2 some few scalar (by simp)
    | fourDigits four hex denotes => exact (without taken after hex).1 four rfl
    | @pair high low four hex =>
      exact (without high ('\\' :: 'u' :: (low ++ after)) hex).1 four (by simp)
    | unpaired four hex => exact (without taken after hex).1 four rfl

end Forms

end MessageHarvest.Call
