import MessageHarvest.Call.Unescape
import MessageHarvest.Proofs.Script.Body

namespace MessageHarvest.Call

open Script (Piece lineEnds)

section Lengths

variable {rest after : Text} {c : Char}

theorem length_of_hexEscape? (h : hexEscape? rest = some (c, after)) :
    after.length ≤ rest.length := by
  obtain ⟨⟨unit, behind⟩, taken, same⟩ := Option.map_eq_some_iff.1 h
  cases same
  have := Text.length_of_takeHex? taken
  omega

theorem length_of_bracedEscape? (h : bracedEscape? rest = some (c, after)) :
    after.length ≤ rest.length := by
  have span := Text.length_spanHex_le 0 0 rest
  unfold bracedEscape? at h
  split at h
  · rename_i count unit behind read
    rw [read] at span
    split at h
    · cases h
      exact Nat.le_of_succ_le span
    · cases h
  · cases h

theorem length_of_lowSurrogate? {low : Nat} (h : lowSurrogate? rest = some (low, after)) :
    after.length ≤ rest.length := by
  unfold lowSurrogate? at h
  split at h
  · split at h
    · rename_i taken
      split at h
      · cases h
        have := Text.length_of_takeHex? taken
        simp only [List.length_cons]
        omega
      · cases h
    · cases h
  · cases h

theorem length_of_fourDigitEscape? (h : fourDigitEscape? rest = some (c, after)) :
    after.length ≤ rest.length := by
  unfold fourDigitEscape? at h
  split at h
  · cases h
  · rename_i unit behind taken
    have := Text.length_of_takeHex? taken
    split at h
    · split at h
      · rename_i completed
        obtain ⟨-, rfl⟩ := Prod.mk.inj (Option.some.inj h)
        have := length_of_lowSurrogate? completed
        omega
      · cases h
        omega
    · cases h
      omega

theorem length_of_unicodeEscape? (h : unicodeEscape? rest = some (c, after)) :
    after.length ≤ rest.length := by
  unfold unicodeEscape? at h
  split at h
  · exact Nat.le_succ_of_le (length_of_bracedEscape? h)
  · exact length_of_fourDigitEscape? h

theorem length_orLetter_le (letter : Char) {read : Option (Char × Text)}
    (shorter : ∀ c after, read = some (c, after) → after.length ≤ rest.length) :
    (orLetter letter rest read).2.length ≤ rest.length := by
  cases read with
  | none => exact Nat.le_refl _
  | some found => exact shorter found.1 found.2 rfl

theorem length_decodeEscape_le (rest : Text) : (decodeEscape rest).2.length ≤ rest.length := by
  unfold decodeEscape
  split
  case h_1 => exact Nat.le_refl 0
  case h_8 rest =>
    exact Nat.le_succ_of_le (length_orLetter_le 'x' fun _ _ => length_of_hexEscape?)
  case h_9 rest =>
    exact Nat.le_succ_of_le (length_orLetter_le 'u' fun _ _ => length_of_unicodeEscape?)
  case h_10 rest => exact Nat.le_add_right rest.length 2
  case h_11 =>
    split
    · split <;> exact Nat.le_succ _
    · split <;> exact Nat.le_succ _
  all_goals exact Nat.le_succ _

end Lengths

section Steps

theorem unescapeFrom_congr {fuel fuel' : Nat} {body : Text} (enough : body.length ≤ fuel)
    (enough' : body.length ≤ fuel') : unescapeFrom fuel body = unescapeFrom fuel' body := by
  induction fuel generalizing fuel' body with
  | zero =>
    obtain rfl := List.eq_nil_of_length_eq_zero (Nat.le_zero.1 enough)
    cases fuel' <;> rfl
  | succ fuel ih =>
    cases fuel' with
    | zero =>
      obtain rfl := List.eq_nil_of_length_eq_zero (Nat.le_zero.1 enough')
      rfl
    | succ fuel' =>
      cases body with
      | nil => rfl
      | cons c rest =>
        have here := Nat.le_of_succ_le_succ enough
        have there := Nat.le_of_succ_le_succ enough'
        by_cases escape : c = '\\'
        · subst escape
          have shorter := length_decodeEscape_le rest
          rw [unescapeFrom, unescapeFrom]
          exact congrArg _ (ih (Nat.le_trans shorter here) (Nat.le_trans shorter there))
        · rw [unescapeFrom, unescapeFrom, ih here there]
          all_goals exact escape

theorem unescape_cons {c : Char} (plain : c ≠ '\\') (rest : Text) :
    unescape (c :: rest) = c :: unescape rest := by
  rw [unescape, List.length_cons, unescapeFrom]
  · rfl
  · exact plain

theorem unescape_escape (rest : Text) :
    unescape ('\\' :: rest) = (decodeEscape rest).1 ++ unescape (decodeEscape rest).2 := by
  rw [unescape, List.length_cons, unescapeFrom]
  exact congrArg _ (unescapeFrom_congr (length_decodeEscape_le rest) (Nat.le_refl _))

theorem unescape_append {text : Text} (unescaped : '\\' ∉ text) (rest : Text) :
    unescape (text ++ rest) = text ++ unescape rest := by
  induction text with
  | nil => rfl
  | cons c text ih =>
    rw [List.mem_cons, not_or] at unescaped
    have plain : c ≠ '\\' := fun same => unescaped.1 same.symm
    rw [List.cons_append, unescape_cons plain, ih unescaped.2, List.cons_append]

end Steps

section Emptiness

variable {rest after terminator : Text}

inductive Continued : Text → Prop
  | nil : Continued []
  | cons {terminator rest : Text} (ends : terminator ∈ lineEnds) (continued : Continued rest) :
      Continued ('\\' :: (terminator ++ rest))

theorem decodeEscape_lineEnd (ends : terminator ∈ lineEnds)
    (fits : (Piece.continuation terminator).Fits after) :
    decodeEscape (terminator ++ after) = ([], after) := by
  simp only [lineEnds, List.mem_cons, List.not_mem_nil, or_false] at ends
  rcases ends with rfl | rfl | rfl | rfl | rfl
  · rfl
  · cases after with
    | nil => rfl
    | cons c after =>
      have other : c ≠ '\n' := by
        rintro rfl
        exact fits rfl rfl
      rw [List.singleton_append, decodeEscape]
      all_goals simp [other]
  · rfl
  · rfl
  · rfl

theorem orLetter_ne_nil (letter : Char) (rest : Text) (read : Option (Char × Text)) :
    (orLetter letter rest read).1 ≠ [] := by
  cases read <;> exact List.cons_ne_nil _ _

theorem lineEnd_of_decodeEscape (none : (decodeEscape rest).1 = []) :
    ∃ terminator ∈ lineEnds, rest = terminator ++ (decodeEscape rest).2 := by
  revert none
  unfold decodeEscape
  split
  case h_8 => exact fun none => absurd none (orLetter_ne_nil _ _ _)
  case h_9 => exact fun none => absurd none (orLetter_ne_nil _ _ _)
  case h_10 rest => exact fun _ => ⟨['\r', '\n'], by decide, rfl⟩
  case h_11 c rest _ _ _ _ _ _ _ _ _ =>
    split
    · split <;> exact nofun
    · split
      · rename_i ends
        refine fun _ => ⟨[c], ?_, rfl⟩
        have point (n : Nat) (same : c.toNat = n) : c = Char.ofNat n := by
          rw [← same, Char.ofNat_toNat]
        simp only [Bool.or_eq_true, decide_eq_true_eq] at ends
        rcases ends with ((rfl | rfl) | same) | same
        · decide
        · decide
        · rw [point _ same]
          decide
        · rw [point _ same]
          decide
      · exact nofun
  all_goals exact nofun

theorem Continued.fits (h : Continued rest) (terminator : Text) :
    (Piece.continuation terminator).Fits rest := by
  intro _ newline
  cases h <;> cases newline

theorem unescape_of_continued (h : Continued rest) : unescape rest = [] := by
  induction h with
  | nil => rfl
  | cons ends continued ih =>
    rw [unescape_escape, decodeEscape_lineEnd ends (continued.fits _), ih]
    rfl

theorem continued_of_unescape {body : Text} (none : unescape body = []) : Continued body := by
  match body with
  | [] => exact .nil
  | c :: rest =>
    by_cases escape : c = '\\'
    · subst escape
      rw [unescape_escape, List.append_eq_nil_iff] at none
      obtain ⟨terminator, ends, whole⟩ := lineEnd_of_decodeEscape none.1
      have shorter := length_decodeEscape_le rest
      have continued := continued_of_unescape none.2
      rw [whole]
      exact .cons ends continued
    · rw [unescape_cons escape] at none
      cases none
  termination_by body.length

theorem unescape_eq_nil_iff {body : Text} : unescape body = [] ↔ Continued body :=
  ⟨continued_of_unescape, unescape_of_continued⟩

end Emptiness

end MessageHarvest.Call
