import MessageHarvest.Text.Hex

namespace MessageHarvest.Text

def unitsOfPoint (point : Nat) : List Nat :=
  if point < 0x10000 then [point]
  else [0xD800 + (point - 0x10000) / 0x400, 0xDC00 + (point - 0x10000) % 0x400]

def utf16 (text : Text) : List Nat := text.flatMap fun c => unitsOfPoint c.toNat

theorem isHighSurrogate_iff {n : Nat} : isHighSurrogate n = true ↔ 0xD800 ≤ n ∧ n < 0xDC00 := by
  simp [isHighSurrogate]

theorem isLowSurrogate_iff {n : Nat} : isLowSurrogate n = true ↔ 0xDC00 ≤ n ∧ n < 0xE000 := by
  simp [isLowSurrogate]

theorem isScalar_iff {n : Nat} :
    isScalar n = true ↔ n < 0xD800 ∨ (0xE000 ≤ n ∧ n < 0x110000) := by
  simp [isScalar]

theorem not_high_of_isScalar {n : Nat} (scalar : isScalar n = true) :
    isHighSurrogate n = false := by
  rw [← Bool.not_eq_true, isHighSurrogate_iff]
  rw [isScalar_iff] at scalar
  omega

theorem point_cases {n : Nat} (bounded : n < 0x110000) :
    isScalar n = true ∨ isHighSurrogate n = true ∨ isLowSurrogate n = true := by
  rw [isScalar_iff, isHighSurrogate_iff, isLowSurrogate_iff]
  omega

theorem isScalar_toNat (c : Char) : isScalar c.toNat = true := by
  have valid : c.toNat < 0xD800 ∨ (0xDFFF < c.toNat ∧ c.toNat < 0x110000) := c.valid
  rw [isScalar_iff]
  omega

theorem toNat_lt (c : Char) : c.toNat < 0x110000 := by
  have scalar := isScalar_toNat c
  rw [isScalar_iff] at scalar
  omega

theorem units_of_isScalar {n : Nat} (scalar : isScalar n = true) :
    unitsOfPoint n = [n] ∨ ∃ high low, isHighSurrogate high = true ∧ isLowSurrogate low = true ∧
      n = joinSurrogates high low ∧ unitsOfPoint n = [high, low] := by
  rw [isScalar_iff] at scalar
  by_cases small : n < 0x10000
  · exact .inl (if_pos small)
  · right
    refine ⟨0xD800 + (n - 0x10000) / 0x400, 0xDC00 + (n - 0x10000) % 0x400, ?_, ?_, ?_, if_neg small⟩
    · rw [isHighSurrogate_iff]
      omega
    · rw [isLowSurrogate_iff]
      omega
    · unfold joinSurrogates
      omega

theorem unitsOfPoint_of_high {n : Nat} (high : isHighSurrogate n = true) : unitsOfPoint n = [n] := by
  rw [isHighSurrogate_iff] at high
  exact if_pos (by omega)

theorem unitsOfPoint_of_low {n : Nat} (low : isLowSurrogate n = true) : unitsOfPoint n = [n] := by
  rw [isLowSurrogate_iff] at low
  exact if_pos (by omega)

theorem utf16_cons (c : Char) (text : Text) : utf16 (c :: text) = unitsOfPoint c.toNat ++ utf16 text :=
  rfl

theorem utf16_eq_nil_iff {text : Text} : utf16 text = [] ↔ text = [] := by
  cases text with
  | nil => exact ⟨fun _ => rfl, fun _ => rfl⟩
  | cons c text =>
    have some : unitsOfPoint c.toNat ≠ [] := by
      unfold unitsOfPoint
      split <;> simp
    simp [utf16_cons, some]

theorem first_of_utf16 {unit : Nat} {units : List Nat} {text : Text}
    (same : unit :: units = utf16 text) :
    (∃ tail, isScalar unit = true ∧ units = utf16 tail ∧ text = Char.ofNat unit :: tail) ∨
      ∃ low tail, isHighSurrogate unit = true ∧ isLowSurrogate low = true ∧
        units = low :: utf16 tail ∧ text = Char.ofNat (joinSurrogates unit low) :: tail := by
  cases text with
  | nil => cases same
  | cons c text =>
    rw [utf16_cons] at same
    have scalar := isScalar_toNat c
    rcases units_of_isScalar scalar with alone | ⟨high, low, first, second, joined, pair⟩
    · rw [alone] at same
      obtain ⟨rfl, rfl⟩ := List.cons.inj same
      exact .inl ⟨text, scalar, rfl, by rw [Char.ofNat_toNat]⟩
    · rw [pair] at same
      obtain ⟨rfl, rfl⟩ := List.cons.inj same
      exact .inr ⟨low, text, first, second, rfl, by rw [← joined, Char.ofNat_toNat]⟩

theorem not_low_of_utf16 {low : Nat} {units : List Nat} {text : Text}
    (same : low :: units = utf16 text) : isLowSurrogate low = false := by
  rw [← Bool.not_eq_true]
  intro second
  rw [isLowSurrogate_iff] at second
  rcases first_of_utf16 same with ⟨tail, scalar, -⟩ | ⟨low', tail, first, -⟩
  · rw [isScalar_iff] at scalar
    omega
  · rw [isHighSurrogate_iff] at first
    omega

theorem high_of_utf16 {high : Nat} {units : List Nat} {text : Text}
    (first : isHighSurrogate high = true) (same : high :: units = utf16 text) :
    ∃ low tail, isLowSurrogate low = true ∧ units = low :: utf16 tail ∧
      text = Char.ofNat (joinSurrogates high low) :: tail := by
  rcases first_of_utf16 same with ⟨tail, scalar, -⟩ | ⟨low, tail, -, completed⟩
  · exact absurd first (Bool.eq_false_iff.1 (not_high_of_isScalar scalar))
  · exact ⟨low, tail, completed⟩

theorem scalar_of_utf16 {n : Nat} {units : List Nat} {text : Text} (scalar : isScalar n = true)
    (same : unitsOfPoint n ++ units = utf16 text) :
    ∃ tail, units = utf16 tail ∧ text = Char.ofNat n :: tail := by
  rcases units_of_isScalar scalar with alone | ⟨high, low, first, -, joined, pair⟩
  · rw [alone] at same
    rcases first_of_utf16 same with ⟨tail, -, whole⟩ | ⟨low, tail, first, -⟩
    · exact ⟨tail, whole⟩
    · exact absurd first (Bool.eq_false_iff.1 (not_high_of_isScalar scalar))
  · rw [pair] at same
    obtain ⟨low', tail, -, after, rfl⟩ := high_of_utf16 first same
    obtain ⟨rfl, rfl⟩ := List.cons.inj after
    exact ⟨tail, rfl, by rw [joined]⟩

theorem eq_of_low_units {n low : Nat} {units after : List Nat} (bounded : n < 0x110000)
    (second : isLowSurrogate low = true) (same : unitsOfPoint n ++ units = low :: after) :
    n = low ∧ units = after := by
  rw [isLowSurrogate_iff] at second
  rcases point_cases bounded with scalar | high | low'
  · rcases units_of_isScalar scalar with alone | ⟨high, low', first, -, -, pair⟩
    · rw [alone] at same
      exact List.cons.inj same
    · rw [pair] at same
      obtain ⟨rfl, -⟩ := List.cons.inj same
      rw [isHighSurrogate_iff] at first
      omega
  · rw [unitsOfPoint_of_high high] at same
    exact List.cons.inj same
  · rw [unitsOfPoint_of_low low'] at same
    exact List.cons.inj same

theorem isSurrogate_iff {n : Nat} (bounded : n < 0x110000) :
    isSurrogate n = true ↔ isHighSurrogate n = true ∨ isLowSurrogate n = true := by
  rw [isHighSurrogate_iff, isLowSurrogate_iff]
  simp only [isSurrogate, Bool.and_eq_true, decide_eq_true_eq]
  omega

theorem isScalar_of_not_isSurrogate {n : Nat} (bounded : n < 0x110000)
    (other : ¬ isSurrogate n = true) : isScalar n = true := by
  rw [isSurrogate_iff bounded, not_or] at other
  rcases point_cases bounded with scalar | high | low
  · exact scalar
  · exact absurd high other.1
  · exact absurd low other.2

theorem joined_of_utf16 {n : Nat} {points : List Nat} {text : Text} (here : n < 0x110000)
    (bounded : ∀ n ∈ points, n < 0x110000) (surrogate : isSurrogate n = true)
    (same : unitsOfPoint n ++ points.flatMap unitsOfPoint = utf16 text) :
    isHighSurrogate n = true ∧ ∃ next rest tail, points = next :: rest ∧
      isLowSurrogate next = true ∧ rest.flatMap unitsOfPoint = utf16 tail ∧
      text = Char.ofNat (joinSurrogates n next) :: tail := by
  rcases (isSurrogate_iff here).1 surrogate with high | low
  · rw [unitsOfPoint_of_high high] at same
    obtain ⟨low, tail, second, behind, whole⟩ := high_of_utf16 high same
    cases points with
    | nil => cases behind
    | cons next rest =>
      obtain ⟨equal, after⟩ := eq_of_low_units (List.forall_mem_cons.1 bounded).1 second behind
      rw [← equal] at second whole
      exact ⟨high, next, rest, tail, rfl, second, after, whole⟩
  · rw [unitsOfPoint_of_low low] at same
    rw [not_low_of_utf16 same] at low
    cases low

theorem ofUnits?_eq_some {points : List Nat} {text : Text} (bounded : ∀ n ∈ points, n < 0x110000)
    (same : points.flatMap unitsOfPoint = utf16 text) : ofUnits? points = some text := by
  fun_induction ofUnits? points generalizing text with
  | case1 => rw [utf16_eq_nil_iff.1 same.symm]
  | case2 n surrogate =>
    obtain ⟨here, others⟩ := List.forall_mem_cons.1 bounded
    obtain ⟨-, next, rest, tail, none, -⟩ := joined_of_utf16 here others surrogate same
    cases none
  | case3 n other =>
    obtain ⟨here, -⟩ := List.forall_mem_cons.1 bounded
    have scalar := isScalar_of_not_isSurrogate here other
    obtain ⟨tail, none, whole⟩ := scalar_of_utf16 scalar same
    rw [whole, utf16_eq_nil_iff.1 none.symm]
  | case4 n next rest pair ih =>
    obtain ⟨here, others⟩ := List.forall_mem_cons.1 bounded
    have high := (Bool.and_eq_true_iff.1 pair).1
    have surrogate := (isSurrogate_iff here).2 (.inl high)
    obtain ⟨-, _, _, tail, split, -, after, whole⟩ := joined_of_utf16 here others surrogate same
    obtain ⟨rfl, rfl⟩ := List.cons.inj split
    rw [ih (List.forall_mem_cons.1 others).2 after, whole]
    rfl
  | case5 n next rest unpaired surrogate =>
    obtain ⟨here, others⟩ := List.forall_mem_cons.1 bounded
    obtain ⟨high, _, _, tail, split, low, -⟩ := joined_of_utf16 here others surrogate same
    obtain ⟨rfl, rfl⟩ := List.cons.inj split
    exact absurd (Bool.and_eq_true_iff.2 ⟨high, low⟩) unpaired
  | case6 n next rest unpaired other ih =>
    obtain ⟨here, others⟩ := List.forall_mem_cons.1 bounded
    have scalar := isScalar_of_not_isSurrogate here other
    obtain ⟨tail, after, whole⟩ := scalar_of_utf16 scalar same
    rw [ih others after, whole]
    rfl

end MessageHarvest.Text
