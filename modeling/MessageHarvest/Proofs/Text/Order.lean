import MessageHarvest.Proofs.Text.CodeUnit
import MessageHarvest.Text.SortedMap
import MessageHarvest.Text.Utf8
import Mathlib.Data.Char
import Mathlib.Data.List.Lex

namespace MessageHarvest

theorem Text.before_iff_lt {s t : Text} : before s t = true ↔ s < t := by
  induction s generalizing t with
  | nil => cases t <;> simp [before]
  | cons a s ih =>
    cases t with
    | nil => simp [before]
    | cons b t =>
      rw [List.cons_lt_cons_iff, before]
      by_cases same : a = b
      · simp [same, ih]
      · have less : a < b ↔ a.toNat < b.toNat := UInt32.lt_iff_toNat_lt
        simp [same, less]

theorem SortedMap.keys_increasing {α : Type} (map : SortedMap α) : map.keys.Pairwise (· < ·) :=
  List.pairwise_map.2 (map.ascending.imp Text.before_iff_lt.1)

namespace Utf8

/-- Of two characters the one with the smaller code point is smaller at the first byte in which they
differ, so that what follows does not matter. -/
theorem encodeChar_append_lt {a b : Char} (less : a.toNat < b.toNat) (x y : Bytes) :
    encodeChar a ++ x < encodeChar b ++ y := by
  have bound := Text.toNat_lt b
  have second (n : Nat) : n / 0x1000 = n / 0x40 / 0x40 := by rw [Nat.div_div_eq_div_mul]
  have third (n : Nat) : n / 0x40000 = n / 0x40 / 0x40 / 0x40 := by
    rw [Nat.div_div_eq_div_mul, Nat.div_div_eq_div_mul]
  unfold encodeChar
  generalize a.toNat = m, b.toNat = n at *
  simp only [second, third]
  -- one case for each two lengths
  split_ifs <;>
    simp only [List.cons_append, List.nil_append, List.cons_lt_cons_iff, UInt8.lt_iff_toNat_lt,
      ← UInt8.toNat_inj, Nat.toUInt8, UInt8.toNat_ofNat'] <;>
    omega

theorem encodeChar_ne_nil (c : Char) : encodeChar c ≠ [] := by
  unfold encodeChar
  dsimp only
  split_ifs <;> exact List.cons_ne_nil _ _

theorem encode_lt_encode {s t : Text} (less : s < t) : encode s < encode t := by
  induction s generalizing t with
  | nil =>
    cases t with
    | nil => exact absurd less (lt_irrefl _)
    | cons b t =>
      obtain ⟨byte, bytes, first⟩ := List.exists_cons_of_ne_nil (encodeChar_ne_nil b)
      rw [encode, encode, List.flatMap_cons, first]
      exact List.nil_lt_cons byte _
  | cons a s ih =>
    cases t with
    | nil => exact absurd less (List.not_lt_nil _)
    | cons b t =>
      rcases List.cons_lt_cons_iff.1 less with first | ⟨rfl, others⟩
      · exact encodeChar_append_lt (UInt32.lt_iff_toNat_lt.1 first) (encode s) (encode t)
      · exact List.append_left_lt (ih others)

end Utf8

end MessageHarvest
