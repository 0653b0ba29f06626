import MessageHarvest.Proofs.Script.Cutting

/-!
Blanks and comments before a token. From a clear place they lead to a clear place: no comment that is
closed ends among the blanks before the literal, and none begins there.
-/

namespace MessageHarvest.Script

theorem isSpace_of_isLineTerminator {c : Char} (h : isLineTerminator c = true) :
    Text.isSpace c = true := by
  simp only [isLineTerminator, Bool.or_eq_true, decide_eq_true_eq] at h
  rcases h with ((rfl | rfl) | h) | h
  · decide
  · decide
  · simp [Text.isSpace, h]
  · simp [Text.isSpace, h]

theorem parts_of_isLineTerminator {c : Char} (h : isLineTerminator c = true) :
    c ≠ ',' ∧ c ≠ '\'' ∧ c ≠ '"' := by
  refine ⟨?_, ?_, ?_⟩ <;>
    · rintro rfl
      simp [isLineTerminator] at h

theorem parts_of_isBlank {c : Char} (h : isBlank c = true) : c ≠ ',' ∧ c ≠ '\'' ∧ c ≠ '"' := by
  refine ⟨?_, ?_, ?_⟩ <;>
    · rintro rfl
      simp [isBlank] at h

namespace Ending

variable {ending : Ending}

inductive Commented (ending : Ending) : Text → Prop
  | ahead {front : Text} (unclosed : ')' ∉ front) (shown : ending.Shown front)
      (hides : (∀ c ∈ front, isLineTerminator c = false) → ending.OneLine) :
      Commented ending (front ++ ending.text)
  | hidden {text : Text} (oneLine : ending.OneLine) (covers : ending.Covers text) :
      Commented ending text
  | lost {text : Text} (gone : text <:+ ending.body ++ [ending.quote, ')']) : Commented ending text

theorem Clear.commented {rest : Text} (h : ending.Clear ('/' :: '/' :: rest)) :
    ending.Commented rest := by
  have notQuote : '/' ≠ ending.quote := quote_ne (by decide) (by decide)
  generalize ht : '/' :: '/' :: rest = text at h
  cases h with
  | @ahead front unclosed shown =>
    cases front with
    | nil => simp [Ending.text] at ht
    | cons c front =>
      obtain ⟨rfl, behind⟩ := List.cons.inj ht
      cases front with
      | nil => simp [Ending.text] at behind
      | cons d front =>
        obtain ⟨rfl, rfl⟩ := List.cons.inj behind
        have unclosed' : ')' ∉ front := fun m => unclosed (by simp [m])
        exact .ahead unclosed' (shown.suffix ((List.suffix_cons ..).trans (List.suffix_cons ..)))
          (shown front List.suffix_rfl)
  | @lost inner inside =>
    cases inner with
    | nil => exact absurd (List.cons.inj ht).1 notQuote
    | cons c inner =>
      obtain ⟨rfl, behind⟩ := List.cons.inj ht
      cases inner with
      | nil => exact absurd (List.cons.inj behind).1 notQuote
      | cons d inner =>
        obtain ⟨rfl, rfl⟩ := List.cons.inj behind
        obtain ⟨front, whole⟩ := inside
        exact .lost ⟨front ++ ['/', '/'], by simp [← whole]⟩
  | nil => simp at ht

theorem inside_of_suffix {c : Char} {rest : Text}
    (h : c :: rest <:+ ending.body ++ [ending.quote, ')']) (quote : c ≠ ending.quote)
    (close : c ≠ ')') : ending.Inside rest := by
  obtain ⟨front, whole⟩ := h
  rcases List.append_eq_append_iff.1 whole with ⟨inner, body, tail⟩ | ⟨inner, front_eq, tail⟩
  · match inner with
    | [] => simp [quote] at tail
    | d :: inner =>
      obtain ⟨rfl, rfl⟩ := List.cons.inj tail
      exact ⟨inner, ⟨front ++ [c], by simp [body]⟩, rfl⟩
  · match inner with
    | [] => exact absurd (List.cons.inj tail).1.symm quote
    | [d] => exact absurd (List.cons.inj (List.cons.inj tail).2).1.symm close
    | d :: e :: inner => simp at tail

theorem Commented.tail {c : Char} {rest : Text} (h : ending.Commented (c :: rest))
    (inLine : isLineTerminator c = false) : ending.Commented rest := by
  generalize ht : c :: rest = text at h
  cases h with
  | @ahead front unclosed shown hides =>
    cases front with
    | nil =>
      obtain ⟨-, rfl⟩ := List.cons.inj ht
      exact .hidden (hides (by simp)) (.due List.suffix_rfl)
    | cons d front =>
      obtain ⟨rfl, rfl⟩ := List.cons.inj ht
      refine .ahead (fun m => unclosed (List.mem_cons_of_mem c m))
        (shown.suffix (List.suffix_cons c front)) fun through => hides ?_
      exact List.forall_mem_cons.2 ⟨inLine, through⟩
  | hidden oneLine covers =>
    rw [← ht] at covers
    exact .hidden oneLine covers.tail
  | lost gone =>
    rw [← ht] at gone
    exact .lost ((List.suffix_cons ..).trans gone)

theorem Commented.clear {c : Char} {rest : Text} (h : ending.Commented (c :: rest))
    (terminator : isLineTerminator c = true) : ending.Clear rest := by
  obtain ⟨comma, single, double⟩ := parts_of_isLineTerminator terminator
  have quote : c ≠ ending.quote := quote_ne single double
  have close : c ≠ ')' := by
    rintro rfl
    simp [isLineTerminator] at terminator
  generalize ht : c :: rest = text at h
  cases h with
  | @ahead front unclosed shown =>
    have clear : ending.Clear (front ++ ending.text) := .ahead unclosed shown
    rw [← ht] at clear
    exact clear.tail comma quote
  | hidden oneLine covers =>
    rw [← ht] at covers
    cases covers.steps with
    | clear clear => exact clear
    | comma here => exact absurd here comma
    | blank after =>
      have here := oneLine c (after.subset (by simp))
      rw [terminator] at here
      cases here
    | opened here => exact absurd here quote
    | closed here => exact absurd here quote
  | lost gone =>
    rw [← ht] at gone
    obtain ⟨inner, inside, rfl⟩ := inside_of_suffix gone quote close
    exact .lost inside

end Ending

namespace Gap

theorem prefix_skip (mode : Skipping) (newline : Bool) (line : Nat) (notes : List Report)
    (text : Text) : notes <+: (skip mode newline line notes text).notes := by
  fun_induction skip mode newline line notes text
  case case3 ih => exact (List.prefix_append ..).trans ih
  case case4 ih => exact (List.prefix_append ..).trans ih
  case case12 => exact List.prefix_append ..
  all_goals first
    | assumption
    | exact List.prefix_rfl

theorem notes_skip_append_ne_nil {mode : Skipping} {newline : Bool} {line : Nat}
    {notes : List Report} {report : Report} {text : Text} :
    (skip mode newline line (notes ++ [report]) text).notes ≠ [] := by
  intro none
  have noted := prefix_skip mode newline line (notes ++ [report]) text
  rw [none, List.prefix_nil] at noted
  simp at noted

end Gap

namespace Ending

variable {ending : Ending}

def Skips (ending : Ending) : Skipping → Text → Prop
  | .blanks, text => ending.Clear text
  | .lineComment, text => ending.Commented text
  | .blockComment, text => ending.Covers text

theorem clear_skip {mode : Skipping} {newline : Bool} {line : Nat} {notes : List Report}
    {text : Text} (h : ending.Skips mode text)
    (faultless : (Gap.skip mode newline line notes text).notes = []) :
    ending.Clear (Gap.skip mode newline line notes text).start.rest := by
  fun_induction Gap.skip mode newline line notes text
  case case1 ih => exact ih (Clear.commented h) faultless
  case case2 ih => exact ih (Covers.clear h).tail.tail faultless
  -- a comment that modules may not hold has been noted
  case case3 => exact absurd faultless Gap.notes_skip_append_ne_nil
  case case4 => exact absurd faultless Gap.notes_skip_append_ne_nil
  case case5 terminator ih =>
    obtain ⟨comma, single, double⟩ := parts_of_isLineTerminator terminator
    exact ih (Clear.tail h comma (quote_ne single double)) faultless
  case case6 blank ih =>
    obtain ⟨comma, single, double⟩ := parts_of_isBlank blank
    exact ih (Clear.tail h comma (quote_ne single double)) faultless
  case case7 => exact h
  case case8 terminator ih => exact ih (Commented.clear h terminator) faultless
  case case9 inLine ih => exact ih (Commented.tail h (Bool.eq_false_iff.2 inLine)) faultless
  case case10 ih => exact ih ((Covers.tail h).clear_of_plain (by decide)) faultless
  case case11 ih => exact ih (Covers.tail h) faultless
  case case12 => simp at faultless
  case case13 => exact .nil

end Ending

end MessageHarvest.Script
