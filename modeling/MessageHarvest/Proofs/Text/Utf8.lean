import MessageHarvest.Proofs.Text.CodeUnit
import MessageHarvest.Text.Utf8
import Mathlib.Tactic.SplitIfs

/-!
What was encoded is decoded as it was, and so are ASCII bytes among any others: no character goes on
with one, so that decoding starts anew there.
-/

namespace MessageHarvest.Utf8

variable {value low high byte : Nat} {bytes : Bytes}

theorem toNat_toUInt8 {n : Nat} (small : n < 256) : n.toUInt8.toNat = n :=
  UInt8.toNat_ofNat_of_lt' small

theorem decodeFrom_start (small : byte < 256) :
    decodeFrom .between (byte.toUInt8 :: bytes) =
      (start byte).1 ++ decodeFrom (start byte).2 bytes := by
  rw [decodeFrom, toNat_toUInt8 small]
  rfl

theorem decodeFrom_last (small : byte < 256) (above : low ≤ byte) (below : byte ≤ high) :
    decodeFrom (.inside value 1 low high) (byte.toUInt8 :: bytes) =
      Char.ofNat (value * 0x40 + (byte - 0x80)) :: decodeFrom .between bytes := by
  rw [decodeFrom, toNat_toUInt8 small, step, if_pos ⟨above, below⟩]
  rfl

theorem decodeFrom_more (small : byte < 256) (above : low ≤ byte) (below : byte ≤ high)
    (missing : Nat) :
    decodeFrom (.inside value (missing + 2) low high) (byte.toUInt8 :: bytes) =
      decodeFrom (.inside (value * 0x40 + (byte - 0x80)) (missing + 1) 0x80 0xBF) bytes := by
  rw [decodeFrom, toNat_toUInt8 small, step, if_pos ⟨above, below⟩]
  rfl

section Starts

variable {n : Nat}

theorem start_one (small : n < 0x80) : start n = ([Char.ofNat n], .between) := if_pos small

theorem start_two (above : 0x80 ≤ n) (below : n < 0x800) :
    start (0xC0 + n / 0x40) = ([], .inside (n / 0x40) 1 0x80 0xBF) := by
  rw [start, if_neg (by omega), if_pos (by omega), Nat.add_sub_cancel_left]

theorem start_three (above : 0x800 ≤ n) (below : n < 0x10000) (scalar : Text.isScalar n = true) :
    ∃ low high, start (0xE0 + n / 0x1000) = ([], .inside (n / 0x1000) 2 low high) ∧
      low ≤ 0x80 + n / 0x40 % 0x40 ∧ 0x80 + n / 0x40 % 0x40 ≤ high := by
  rw [Text.isScalar_iff] at scalar
  by_cases first : n < 0x1000
  · have none : n / 0x1000 = 0 := Nat.div_eq_of_lt first
    exact ⟨0xA0, 0xBF, by rw [none]; rfl, by omega, by omega⟩
  · by_cases surrogate : n / 0x1000 = 0xD
    · exact ⟨0x80, 0x9F, by rw [surrogate]; rfl, by omega, by omega⟩
    · refine ⟨0x80, 0xBF, ?_, by omega, by omega⟩
      rw [start, if_neg (by omega), if_neg (by omega), if_neg (by omega), if_neg (by omega),
        if_pos (by omega), Nat.add_sub_cancel_left]

theorem start_four (above : 0x10000 ≤ n) (below : n < 0x110000) :
    ∃ low high, start (0xF0 + n / 0x40000) = ([], .inside (n / 0x40000) 3 low high) ∧
      low ≤ 0x80 + n / 0x1000 % 0x40 ∧ 0x80 + n / 0x1000 % 0x40 ≤ high := by
  by_cases first : n < 0x40000
  · have none : n / 0x40000 = 0 := Nat.div_eq_of_lt first
    exact ⟨0x90, 0xBF, by rw [none]; rfl, by omega, by omega⟩
  · by_cases last : n / 0x40000 = 4
    · exact ⟨0x80, 0x8F, by rw [last]; rfl, by omega, by omega⟩
    · refine ⟨0x80, 0xBF, ?_, by omega, by omega⟩
      rw [start, if_neg (by omega), if_neg (by omega), if_neg (by omega), if_neg (by omega),
        if_neg (by omega), if_neg (by omega), if_neg (by omega), if_pos (by omega),
        Nat.add_sub_cancel_left]

end Starts

theorem decodeFrom_encodeChar (c : Char) (bytes : Bytes) :
    decodeFrom .between (encodeChar c ++ bytes) = c :: decodeFrom .between bytes := by
  have bounded := Text.toNat_lt c
  have scalar := Text.isScalar_toNat c
  suffices encoded : decodeFrom .between (encodeChar c ++ bytes) =
      Char.ofNat c.toNat :: decodeFrom .between bytes by
    rw [encoded, Char.ofNat_toNat]
  unfold encodeChar
  generalize c.toNat = n at bounded scalar ⊢
  simp only
  -- one to four bytes
  split
  · rename_i one
    rw [List.singleton_append, decodeFrom_start (by omega), start_one one]
    rfl
  split
  · rename_i one two
    rw [List.cons_append, List.singleton_append, decodeFrom_start (by omega),
      start_two (by omega) two, List.nil_append, decodeFrom_last (by omega) (by omega) (by omega)]
    have whole : n / 0x40 * 0x40 + (0x80 + n % 0x40 - 0x80) = n := by omega
    rw [whole]
  split
  · rename_i two three
    obtain ⟨low, high, begun, above, below⟩ := start_three (by omega) three scalar
    simp only [List.cons_append, List.nil_append]
    rw [decodeFrom_start (by omega), begun, List.nil_append,
      decodeFrom_more (by omega) above below, decodeFrom_last (by omega) (by omega) (by omega)]
    have whole : (n / 0x1000 * 0x40 + (0x80 + n / 0x40 % 0x40 - 0x80)) * 0x40 +
        (0x80 + n % 0x40 - 0x80) = n := by omega
    rw [whole]
  · rename_i three
    obtain ⟨low, high, begun, above, below⟩ := start_four (by omega) bounded
    simp only [List.cons_append, List.nil_append]
    rw [decodeFrom_start (by omega), begun, List.nil_append,
      decodeFrom_more (by omega) above below, decodeFrom_more (by omega) (by omega) (by omega),
      decodeFrom_last (by omega) (by omega) (by omega)]
    have whole : ((n / 0x40000 * 0x40 + (0x80 + n / 0x1000 % 0x40 - 0x80)) * 0x40 +
        (0x80 + n / 0x40 % 0x40 - 0x80)) * 0x40 + (0x80 + n % 0x40 - 0x80) = n := by omega
    rw [whole]

theorem decodeLossy_encode (text : Text) : decodeLossy (encode text) = text := by
  induction text with
  | nil => rfl
  | cons c text ih =>
    rw [encode, List.flatMap_cons, decodeLossy, decodeFrom_encodeChar]
    exact congrArg (c :: ·) ih

/-- The library's encoding. Its masks leave out no bit of a character. -/
theorem encodeChar_eq (c : Char) : encodeChar c = String.utf8EncodeChar c := by
  have bounded : c.val.toNat < 0x110000 := Text.toNat_lt c
  unfold encodeChar String.utf8EncodeChar Char.toNat
  generalize c.val.toNat = n at bounded ⊢
  simp only
  split
  · rw [if_pos (by omega)]
  split
  · have lead : n / 64 % 32 = n / 64 := by omega
    rw [if_neg (by omega), if_pos (by omega), lead, Nat.add_comm (n / 64), Nat.add_comm (n % 64)]
  split
  · have lead : n / 4096 % 16 = n / 4096 := by omega
    rw [if_neg (by omega), if_neg (by omega), if_pos (by omega), lead, Nat.add_comm (n / 4096),
      Nat.add_comm (n / 64 % 64), Nat.add_comm (n % 64)]
  · have lead : n / 262144 % 8 = n / 262144 := by omega
    rw [if_neg (by omega), if_neg (by omega), if_neg (by omega), lead, Nat.add_comm (n / 262144),
      Nat.add_comm (n / 4096 % 64), Nat.add_comm (n / 64 % 64), Nat.add_comm (n % 64)]

theorem decode?_encode (text : Text) : decode? (encode text) = some text := by
  simp [decode?, decodeLossy_encode]

section Ascii

def Decoding.Aligned : Decoding → Prop
  | .between => True
  | .inside _ _ low _ => 0x80 ≤ low

variable {decoding : Decoding} {ascii : Bytes}

theorem aligned_between : Decoding.between.Aligned := trivial

theorem aligned_start (byte : Nat) : (start byte).2.Aligned := by
  unfold start
  split_ifs <;> simp [Decoding.Aligned]

theorem Decoding.Aligned.step (aligned : decoding.Aligned) (byte : Nat) :
    (step decoding byte).2.Aligned := by
  cases decoding with
  | between => exact aligned_start byte
  | inside value missing low high =>
    rw [Utf8.step]
    split
    · split
      · exact aligned_between
      · exact Nat.le_refl 0x80
    · exact aligned_start byte

theorem decodeFrom_cons (decoding : Decoding) (byte : UInt8) (bytes : Bytes) :
    decodeFrom decoding (byte :: bytes) =
      (step decoding byte.toNat).1 ++ decodeFrom (step decoding byte.toNat).2 bytes := by
  cases decoding <;> rfl

/-- What has begun ends in front of an ASCII byte as it does at the end. -/
theorem decodeFrom_ascii (aligned : decoding.Aligned) {byte : UInt8} (small : byte < 0x80)
    (bytes : Bytes) : decodeFrom decoding (byte :: bytes) =
      decodeFrom decoding [] ++ Char.ofNat byte.toNat :: decodeLossy bytes := by
  have begun : start byte.toNat = ([Char.ofNat byte.toNat], .between) := if_pos small
  rw [decodeFrom_cons]
  cases decoding with
  | between =>
    rw [step, begun]
    rfl
  | inside value missing low high =>
    have under : ¬ (low ≤ byte.toNat ∧ byte.toNat ≤ high) := fun within =>
      absurd (Nat.le_trans aligned within.1) (Nat.not_le.2 small)
    rw [step, if_neg under, begun]
    rfl

theorem decodeFrom_append_ascii (aligned : decoding.Aligned) {byte : UInt8} (small : byte < 0x80)
    (before after : Bytes) : decodeFrom decoding (before ++ byte :: after) =
      decodeFrom decoding before ++ Char.ofNat byte.toNat :: decodeLossy after := by
  induction before generalizing decoding with
  | nil => exact decodeFrom_ascii aligned small after
  | cons first before ih =>
    rw [List.cons_append, decodeFrom_cons, decodeFrom_cons, ih (aligned.step _), List.append_assoc]

def asciiText (bytes : Bytes) : Text := bytes.map fun byte => Char.ofNat byte.toNat

theorem decodeLossy_ascii_append (small : ∀ byte ∈ ascii, byte < 0x80) (after : Bytes) :
    decodeLossy (ascii ++ after) = asciiText ascii ++ decodeLossy after := by
  induction ascii with
  | nil => rfl
  | cons byte ascii ih =>
    obtain ⟨first, others⟩ := List.forall_mem_cons.1 small
    rw [List.cons_append, decodeLossy, decodeFrom_ascii aligned_between first, ih others]
    rfl

theorem decodeLossy_append_ascii (some : ascii ≠ []) (small : ∀ byte ∈ ascii, byte < 0x80)
    (before after : Bytes) : decodeLossy (before ++ ascii ++ after) =
      decodeLossy before ++ asciiText ascii ++ decodeLossy after := by
  obtain ⟨byte, ascii, rfl⟩ := List.exists_cons_of_ne_nil some
  obtain ⟨first, others⟩ := List.forall_mem_cons.1 small
  rw [List.append_assoc, List.cons_append, decodeLossy, decodeFrom_append_ascii aligned_between first,
    decodeLossy_ascii_append others, List.append_assoc]
  rfl

end Ascii

end MessageHarvest.Utf8
