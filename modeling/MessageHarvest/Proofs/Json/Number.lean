import MessageHarvest.Json.Draft
import MessageHarvest.Json.Printer

namespace MessageHarvest

namespace Text

theorem isDigit_of_mem_ofNat {n : Nat} {c : Char} (mem : c ∈ ofNat n) : c.isDigit = true :=
  Nat.isDigit_of_mem_toDigits (by decide) (by decide) mem

theorem ofNat_of_lt {n : Nat} (small : n < 10) : ofNat n = [Nat.digitChar n] :=
  Nat.toDigits_of_lt_base small

theorem ofNat_of_le {n : Nat} (large : 10 ≤ n) :
    ofNat n = ofNat (n / 10) ++ [Nat.digitChar (n % 10)] :=
  Nat.toDigits_of_base_le (by decide) large

theorem ofNat_leading {n : Nat} {rest : Text} (h : ofNat n = '0' :: rest) : n = 0 := by
  induction n using Nat.strongRecOn generalizing rest with
  | _ n ih =>
    by_cases small : n < 10
    · have digits : ∀ m < 10, Nat.digitChar m = '0' → m = 0 := by decide
      rw [ofNat_of_lt small] at h
      exact digits n small (List.cons.inj h).1
    · have large : 10 ≤ n := Nat.le_of_not_lt small
      have shorter : n / 10 < n := Nat.div_lt_self (by omega) (by decide)
      rw [ofNat_of_le large] at h
      cases higher : ofNat (n / 10) with
      | nil => exact absurd higher Nat.toDigits_ne_nil
      | cons c more =>
        rw [higher, List.cons_append] at h
        rw [(List.cons.inj h).1] at higher
        have := ih (n / 10) shorter higher
        omega

end Text

namespace Json

theorem natOfDigits_ofNat (n : Nat) : natOfDigits (Text.ofNat n) = n := by
  have same : natOfDigits (Text.ofNat n) = Nat.ofDigitChars 10 (Text.ofNat n) 0 := by
    simp only [natOfDigits, Nat.ofDigitChars, Nat.mul_comm]
    rfl
  rw [same]
  exact Nat.ofDigitChars_ten_toDigits

def EndsNumber (rest : Text) : Prop :=
  ∀ c ∈ rest.head?, c.isDigit = false ∧ c ≠ '.' ∧ c ≠ 'e' ∧ c ≠ 'E'

theorem digitsOf_append {digits rest : Text} (all : ∀ c ∈ digits, c.isDigit = true)
    (stops : ∀ c ∈ rest.head?, c.isDigit = false) :
    digitsOf (digits ++ rest) = digits ∧ afterDigits (digits ++ rest) = rest := by
  have behind : digitsOf rest = [] ∧ afterDigits rest = rest := by
    cases rest with
    | nil => exact ⟨rfl, rfl⟩
    | cons c rest =>
      have none : c.isDigit = false := stops c rfl
      simp [digitsOf, afterDigits, none]
  constructor
  · rw [digitsOf, List.takeWhile_append_of_pos all]
    exact (congrArg (digits ++ ·) behind.1).trans (List.append_nil digits)
  · rw [afterDigits, List.dropWhile_append_of_pos all]
    exact behind.2

namespace NumberReading

theorem whole_ofNat (negative : Bool) (n : Nat) {rest : Text} (ends : EndsNumber rest) :
    whole negative (Text.ofNat n ++ rest) = .read ⟨negative, Text.ofNat n, none, none⟩ rest := by
  obtain ⟨digits, after⟩ :=
    digitsOf_append (fun c mem => Text.isDigit_of_mem_ofNat (n := n) mem) fun c mem => (ends c mem).1
  have stops : fraction ⟨negative, Text.ofNat n, none, none⟩ rest =
      .read ⟨negative, Text.ofNat n, none, none⟩ rest := by
    cases rest with
    | nil => rfl
    | cons c rest =>
      obtain ⟨-, point, small, large⟩ := ends c rfl
      simp [fraction, exponent, point, small, large]
  rw [whole, digits, after]
  split
  · rename_i none
    exact absurd none Nat.toDigits_ne_nil
  · rename_i next more led
    -- a zero with a digit behind it is no numeral
    obtain rfl := Text.ofNat_leading led
    cases led
  · exact stops

end NumberReading

def IsWord (value : Int) : Prop := -0x8000000000000000 ≤ value ∧ value < 0x10000000000000000

instance (value : Int) : Decidable (IsWord value) :=
  inferInstanceAs (Decidable (_ ∧ _))

theorem readNumber_printInteger {value : Int} (word : IsWord value) {rest : Text}
    (ends : EndsNumber rest) :
    readNumber (printInteger value ++ rest) = (.scalar (.integer value), some rest) := by
  obtain ⟨low, high⟩ := word
  cases value with
  | ofNat n =>
    have unsigned : NumberReading.ofText (Text.ofNat n ++ rest) =
        NumberReading.whole false (Text.ofNat n ++ rest) := by
      cases digits : Text.ofNat n with
      | nil => exact absurd digits Nat.toDigits_ne_nil
      | cons c more =>
        have digit : c.isDigit = true := Text.isDigit_of_mem_ofNat (n := n) (by simp [digits])
        have unsigned : c ≠ '-' := by
          rintro rfl
          cases digit
        simp [NumberReading.ofText, unsigned]
    have small : n < 0x10000000000000000 := Int.ofNat_lt.1 high
    simp [printInteger, readNumber, unsigned, NumberReading.whole_ofNat false n ends,
      Written.value?, natOfDigits_ofNat, small]
  | negSucc n =>
    have small : n + 1 ≤ 0x8000000000000000 := by omega
    have signed : NumberReading.ofText ('-' :: (Text.ofNat (n + 1) ++ rest)) =
        NumberReading.whole true (Text.ofNat (n + 1) ++ rest) := rfl
    simp [printInteger, readNumber, signed, NumberReading.whole_ofNat true (n + 1) ends,
      Written.value?, natOfDigits_ofNat, small]
    omega

end Json

end MessageHarvest
