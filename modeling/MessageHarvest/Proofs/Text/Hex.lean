import MessageHarvest.Text.Hex
import Mathlib.Algebra.Ring.Nat

namespace MessageHarvest.Text

def hexValue (c : Char) : Nat := (hexDigit? c).getD 0

def hexFrom (value : Nat) (digits : Text) : Nat :=
  digits.foldl (fun value c => value * 16 + hexValue c) value

def hexNumber (digits : Text) : Nat := hexFrom 0 digits

def AllHex (digits : Text) : Prop := ∀ c ∈ digits, isHexDigit c = true

instance (digits : Text) : Decidable (AllHex digits) :=
  List.decidableBAll (fun c => isHexDigit c = true) digits

theorem AllHex.of_cons {c : Char} {digits : Text} (h : AllHex (c :: digits)) :
    isHexDigit c = true ∧ AllHex digits :=
  List.forall_mem_cons.1 h

theorem AllHex.cons {c : Char} {digits : Text} (first : isHexDigit c = true) (h : AllHex digits) :
    AllHex (c :: digits) :=
  List.forall_mem_cons.2 ⟨first, h⟩

theorem hexDigit?_eq_some_iff {c : Char} {d : Nat} :
    hexDigit? c = some d ↔ isHexDigit c = true ∧ hexValue c = d := by
  cases h : hexDigit? c <;> simp [isHexDigit, hexValue, h]

theorem hexDigit?_eq_none_iff {c : Char} : hexDigit? c = none ↔ isHexDigit c = false := by
  cases h : hexDigit? c <;> simp [isHexDigit, h]

theorem hexValue_lt (c : Char) : hexValue c < 16 := by
  have bound (low high : Char) (h : low ≤ c ∧ c ≤ high) :
      low.toNat ≤ c.toNat ∧ c.toNat ≤ high.toNat := h
  unfold hexValue hexDigit?
  split
  · rename_i digit
    have := bound '0' '9' digit
    simp at this ⊢
    omega
  · split
    · rename_i lower
      have := bound 'a' 'f' lower
      simp at this ⊢
      omega
    · split
      · rename_i upper
        have := bound 'A' 'F' upper
        simp at this ⊢
        omega
      · decide

theorem hexFrom_lt {value bound : Nat} (small : value < bound) (digits : Text) :
    hexFrom value digits < bound * 16 ^ digits.length := by
  induction digits generalizing value bound with
  | nil => simpa [hexFrom] using small
  | cons c digits ih =>
    have digit := hexValue_lt c
    have next : value * 16 + hexValue c < bound * 16 := by omega
    calc hexFrom value (c :: digits) = hexFrom (value * 16 + hexValue c) digits := rfl
      _ < bound * 16 * 16 ^ digits.length := ih next
      _ = bound * 16 ^ (c :: digits).length := by
        rw [List.length_cons, Nat.pow_succ, Nat.mul_assoc, Nat.mul_comm 16]

theorem hexNumber_lt (digits : Text) : hexNumber digits < 16 ^ digits.length := by
  have h := hexFrom_lt Nat.zero_lt_one digits
  rwa [Nat.one_mul] at h

theorem takeHex?_eq_some_iff {count value n : Nat} {text rest : Text} :
    takeHex? count value text = some (n, rest) ↔
      ∃ digits, text = digits ++ rest ∧ digits.length = count ∧ AllHex digits ∧
        hexFrom value digits = n := by
  induction count generalizing value text with
  | zero =>
    constructor
    · intro h
      obtain ⟨rfl, rfl⟩ : value = n ∧ text = rest := by simpa [takeHex?] using h
      exact ⟨[], rfl, rfl, List.forall_mem_nil _, rfl⟩
    · rintro ⟨digits, rfl, none, -, rfl⟩
      obtain rfl := List.eq_nil_of_length_eq_zero none
      rfl
  | succ count ih =>
    constructor
    · intro h
      cases text with
      | nil => cases h
      | cons c text =>
        rw [takeHex?] at h
        cases digit : hexDigit? c with
        | none => simp [digit] at h
        | some d =>
          obtain ⟨first, rfl⟩ := hexDigit?_eq_some_iff.1 digit
          rw [digit] at h
          obtain ⟨digits, rfl, rfl, hex, rfl⟩ := ih.1 h
          exact ⟨c :: digits, rfl, rfl, hex.cons first, rfl⟩
    · rintro ⟨digits, rfl, enough, hex, rfl⟩
      cases digits with
      | nil => cases enough
      | cons c digits =>
        obtain ⟨first, hex⟩ := hex.of_cons
        have digit : hexDigit? c = some (hexValue c) := hexDigit?_eq_some_iff.2 ⟨first, rfl⟩
        rw [List.cons_append, takeHex?, digit]
        exact ih.2 ⟨digits, rfl, Nat.succ.inj enough, hex, rfl⟩

theorem takeHex?_append {digits : Text} (hex : AllHex digits) (rest : Text) :
    takeHex? digits.length 0 (digits ++ rest) = some (hexNumber digits, rest) :=
  takeHex?_eq_some_iff.2 ⟨digits, rfl, rfl, hex, rfl⟩

theorem spanHex_append {digits rest : Text} (hex : AllHex digits)
    (stops : ∀ c ∈ rest.head?, isHexDigit c = false) (count value : Nat) :
    spanHex count value (digits ++ rest) =
      (count + digits.length, hexFrom value digits, rest) := by
  induction digits generalizing count value with
  | nil =>
    cases rest with
    | nil => rfl
    | cons c rest =>
      have none : hexDigit? c = none := hexDigit?_eq_none_iff.2 (stops c rfl)
      rw [List.nil_append, spanHex, none]
      rfl
  | cons c digits ih =>
    obtain ⟨first, hex⟩ := hex.of_cons
    have digit : hexDigit? c = some (hexValue c) := hexDigit?_eq_some_iff.2 ⟨first, rfl⟩
    rw [List.cons_append, spanHex, digit]
    refine (ih hex (count + 1) (value * 16 + hexValue c)).trans ?_
    rw [List.length_cons, Nat.add_right_comm, Nat.add_assoc]
    rfl

theorem length_spanHex_le (count value : Nat) (text : Text) :
    (spanHex count value text).2.2.length ≤ text.length := by
  induction text generalizing count value with
  | nil => exact Nat.le_refl 0
  | cons c text ih =>
    rw [spanHex]
    split
    · exact Nat.le_succ_of_le (ih ..)
    · exact Nat.le_refl _

end MessageHarvest.Text
