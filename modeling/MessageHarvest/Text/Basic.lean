/-!
Text is a list of Unicode scalar values. This module holds the order of texts, their decimal numerals,
and the few operations on them that the rest of the library shares.
-/

namespace MessageHarvest

abbrev Text := List Char

namespace Text

/-- Order by code point, which is also the order of the UTF-8 encodings byte by byte. -/
def before : Text → Text → Bool
  | [], [] => false
  | [], _ :: _ => true
  | _ :: _, [] => false
  | a :: s, b :: t => if a = b then before s t else a.toNat < b.toNat

theorem before_irrefl (s : Text) : before s s = false := by
  induction s with
  | nil => rfl
  | cons a s ih => simp [before, ih]

theorem before_trans {s t u : Text} (h : before s t = true) (k : before t u = true) :
    before s u = true := by
  induction s generalizing t u with
  | nil =>
    cases t with
    | nil => simp [before] at h
    | cons b t => cases u with
      | nil => simp [before] at k
      | cons c u => rfl
  | cons a s ih =>
    cases t with
    | nil => simp [before] at h
    | cons b t => cases u with
      | nil => simp [before] at k
      | cons c u =>
        simp only [before] at h k ⊢
        by_cases hab : a = b
        · subst hab
          by_cases hac : a = c
          · simp [hac] at h k ⊢
            exact ih h k
          · simpa [hac] using k
        · by_cases hbc : b = c
          · subst hbc
            simpa [hab] using h
          · simp [hab] at h
            simp [hbc] at k
            have hac : a ≠ c := by
              intro e
              subst e
              omega
            simp [hac]
            omega

theorem before_total {s t : Text} (h : before s t = false) (k : before t s = false) : s = t := by
  induction s generalizing t with
  | nil =>
    cases t with
    | nil => rfl
    | cons b t => simp [before] at h
  | cons a s ih =>
    cases t with
    | nil => simp [before] at k
    | cons b t =>
      by_cases hab : a = b
      · subst hab
        simp [before] at h k
        rw [ih h k]
      · have hba : b ≠ a := fun e => hab e.symm
        simp [before, hab] at h
        simp [before, hba] at k
        exact absurd (Char.toNat_inj.1 (Nat.le_antisymm k h)) hab

def ofNat (n : Nat) : Text := Nat.toDigits 10 n

def dropBeginning? : Text → Text → Option Text
  | [], t => some t
  | _ :: _, [] => none
  | a :: s, b :: t => if a = b then dropBeginning? s t else none

theorem dropBeginning?_eq_some_iff {s t rest : Text} :
    dropBeginning? s t = some rest ↔ t = s ++ rest := by
  induction s generalizing t with
  | nil => simp [dropBeginning?]
  | cons a s ih =>
    cases t with
    | nil => simp [dropBeginning?]
    | cons b t =>
      by_cases h : a = b
      · simp [dropBeginning?, h, ih]
      · have h' : ¬ b = a := fun e => h e.symm
        simp [dropBeginning?, h, h']

def hasBeginning (s t : Text) : Bool := (dropBeginning? s t).isSome

def join (separator : Text) : List Text → Text
  | [] => []
  | [t] => t
  | t :: rest => t ++ separator ++ join separator rest

def inRanges : List (Nat × Nat) → Nat → Bool
  | [], _ => false
  | (low, high) :: rest, n => if n < low then false else n ≤ high || inRanges rest n

end Text

end MessageHarvest
