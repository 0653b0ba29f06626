import MessageHarvest.Proofs.Script.Ending
import MessageHarvest.Script.State

/-!
Where the readers of tokens come to a stop. What a reader takes ends with a plain character, or else
its result is unreadable and nothing but a suffix of the text is left.
-/

namespace MessageHarvest.Script

def spaces : List Nat := [
  0x20, 0x09, 0x0A, 0x0B, 0x0C, 0x0D, 0x85, 0xA0, 0x1680, 0x2000, 0x2001, 0x2002, 0x2003, 0x2004,
  0x2005, 0x2006, 0x2007, 0x2008, 0x2009, 0x200A, 0x2028, 0x2029, 0x202F, 0x205F, 0x3000]

theorem mem_spaces {c : Char} (h : Text.isSpace c = true) : c.toNat ∈ spaces := by
  simp [Text.isSpace] at h
  simp [spaces]
  omega

theorem not_isSpace_of_continuesIdentifier {c : Char} (h : Text.continuesIdentifier c = true) :
    Text.isSpace c = false := by
  have none : ∀ n ∈ spaces, ((Char.ofNat n).isAlphanum || n = 0x24 || n = 0x5F || n = 0x200C ||
      n = 0x200D || Text.inRanges Text.identifierStarts n ||
      Text.inRanges Text.identifierMarks n) = false := by
    decide +kernel
  rw [← Bool.not_eq_true]
  intro space
  have here := none c.toNat (mem_spaces space)
  simp only [Bool.or_eq_false_iff, decide_eq_false_iff_not, Char.ofNat_toNat] at here
  obtain ⟨⟨⟨⟨⟨⟨alphanum, dollar⟩, underscore⟩, joiner⟩, other⟩, start⟩, mark⟩ := here
  unfold Text.continuesIdentifier at h
  split at h
  · simp only [Bool.or_eq_true, alphanum, decide_eq_true_eq, Bool.false_eq_true, false_or] at h
    rcases h with rfl | rfl
    · exact dollar rfl
    · exact underscore rfl
  · simp [joiner, other, start, mark] at h

theorem isPlain_of_continuesIdentifier {c : Char} (h : Text.continuesIdentifier c = true) :
    isPlain c = true := by
  rw [isPlain_iff]
  refine ⟨?_, ?_, ?_, not_isSpace_of_continuesIdentifier h⟩
  all_goals
    rintro rfl
    revert h
    decide +kernel

theorem isPlain_of_startsIdentifier {c : Char} (h : Text.startsIdentifier c = true) :
    isPlain c = true :=
  isPlain_of_continuesIdentifier (Text.continuesIdentifier_of_startsIdentifier h)

theorem isPlain_of_hexDigit {c : Char} {digit : Nat} (h : Text.hexDigit? c = some digit) :
    isPlain c = true := by
  apply isPlain_of_continuesIdentifier
  unfold Text.hexDigit? at h
  have low : c.toNat < 0x80 ∧ c.isAlphanum = true := by
    delta Char.isAlphanum Char.isAlpha Char.isUpper Char.isLower Char.isDigit
    simp only [Bool.or_eq_true, Bool.and_eq_true, decide_eq_true_eq]
    split at h
    · rename_i digit
      exact ⟨Nat.lt_of_le_of_lt digit.2 (by decide), .inr digit⟩
    · split at h
      · rename_i lower
        exact ⟨Nat.lt_of_le_of_lt lower.2 (by decide),
          .inl (.inr ⟨lower.1, Nat.le_trans lower.2 (by decide)⟩)⟩
      · split at h
        · rename_i upper
          exact ⟨Nat.lt_of_le_of_lt upper.2 (by decide),
            .inl (.inl ⟨upper.1, Nat.le_trans upper.2 (by decide)⟩)⟩
        · cases h
  simp [Text.continuesIdentifier, low]

theorem reads_takeHex {count value code : Nat} {text after : Text}
    (h : Text.takeHex? count value text = some (code, after)) : Reads text after := by
  induction count generalizing value text with
  | zero =>
    simp only [Text.takeHex?, Option.some.injEq, Prod.mk.injEq] at h
    rw [h.2]
    exact .refl after
  | succ count ih =>
    cases text with
    | nil => simp [Text.takeHex?] at h
    | cons c text =>
      simp only [Text.takeHex?] at h
      cases digit : Text.hexDigit? c with
      | none => simp [digit] at h
      | some d =>
        simp only [digit] at h
        exact .cons (isPlain_of_hexDigit digit) (ih h)

theorem reads_spanHex (count value : Nat) (text : Text) :
    Reads text (Text.spanHex count value text).2.2 := by
  induction text generalizing count value with
  | nil => exact .refl []
  | cons c text ih =>
    simp only [Text.spanHex]
    cases digit : Text.hexDigit? c with
    | none => exact .refl (c :: text)
    | some d => exact .cons (isPlain_of_hexDigit digit) (ih ..)

namespace Escape

theorem reads_hexPair {text after : Text} {codes : List Nat}
    (h : hexPair text = .units codes after) : Reads text after := by
  unfold hexPair at h
  split at h
  · rename_i code rest taken
    cases h
    exact reads_takeHex taken
  · cases h

theorem reads_braced {text after : Text} {codes : List Nat}
    (h : braced text = .units codes after) : Reads text after := by
  have span := reads_spanHex 0 0 text
  unfold braced at h
  generalize Text.spanHex 0 0 text = found at h span
  obtain ⟨count, code, rest⟩ := found
  dsimp only at h span
  split at h
  · cases h
  · split at h
    · cases h
    · split at h
      · cases h
        exact span.trans (.single (by decide))
      · cases h

theorem reads_fourDigits {text after : Text} {codes : List Nat}
    (h : fourDigits text = .units codes after) : Reads text after := by
  unfold fourDigits at h
  split at h
  · cases h
  · rename_i code rest taken
    have first := reads_takeHex taken
    split at h
    · split at h
      · rename_i digits
        split at h
        · cases h
        · rename_i low rest' taken'
          cases h
          exact first.trans (.cons (by decide) (.cons (by decide) (reads_takeHex taken')))
      · cases h
        exact first
    · cases h
      exact first

theorem reads_unicode {text after : Text} {codes : List Nat}
    (h : unicode text = .units codes after) : Reads text after := by
  unfold unicode at h
  split at h
  · exact .cons (by decide) (reads_braced h)
  · exact reads_fourDigits h

theorem reads_units {c : Char} {text after : Text} {codes : List Nat}
    (h : ofText (c :: text) = .units codes after) : Reads text after := by
  generalize whole : c :: text = source at h
  unfold ofText at h
  split at h
  · cases h
  case h_8 rest =>
    cases whole
    exact reads_hexPair h
  case h_9 rest =>
    cases whole
    exact reads_unicode h
  case h_10 rest =>
    cases whole
    split at h
    · split at h
      · cases h
      · cases h
        exact .refl _
    · cases h
      exact .refl []
  case h_11 d rest _ _ _ _ _ _ _ _ _ =>
    cases whole
    split at h
    · cases h
    · cases h
      exact .refl _
  all_goals
    cases whole
    cases h
    exact .refl _

theorem unicode_ne_legacy {text after : Text} : unicode text ≠ .legacy after := by
  intro h
  unfold unicode braced fourDigits at h
  repeat' split at h
  all_goals cases h

theorem eq_of_legacy {c : Char} {text after : Text} (h : ofText (c :: text) = .legacy after) :
    after = text := by
  generalize whole : c :: text = source at h
  unfold ofText at h
  split at h
  case h_8 rest =>
    unfold hexPair at h
    split at h <;> cases h
  case h_9 rest => exact absurd h unicode_ne_legacy
  case h_10 rest =>
    cases whole
    split at h
    · split at h
      · cases h
        rfl
      · cases h
    · cases h
  case h_11 d rest _ _ _ _ _ _ _ _ _ =>
    cases whole
    split at h
    · cases h
      rfl
    · cases h
  all_goals cases h

theorem exists_of_units {text after : Text} {codes : List Nat}
    (h : ofText text = .units codes after) : ∃ c rest, text = c :: rest ∧ Reads rest after := by
  cases text with
  | nil => cases h
  | cons c rest => exact ⟨c, rest, rfl, reads_units h⟩

theorem suffix_of_units {text after : Text} {codes : List Nat}
    (h : ofText text = .units codes after) : after <:+ text := by
  obtain ⟨c, rest, rfl, reads⟩ := exists_of_units h
  exact reads.suffix.trans (List.suffix_cons c rest)

theorem exists_of_legacy {text after : Text} (h : ofText text = .legacy after) :
    ∃ c, text = c :: after := by
  cases text with
  | nil => cases h
  | cons c rest => exact ⟨c, by rw [eq_of_legacy h]⟩

theorem suffix_of_legacy {text after : Text} (h : ofText text = .legacy after) :
    after <:+ text := by
  obtain ⟨c, rfl⟩ := exists_of_legacy h
  exact List.suffix_cons c after

end Escape

theorem Reads.keeps {c : Char} {end_ text after : Text} (h : Reads text after)
    (delimits : isPlain c = false) (ends : c :: end_ <:+ text) : c :: end_ <:+ after := by
  induction h with
  | refl => exact ends
  | cons plain _ ih =>
    rcases List.suffix_cons_iff.1 ends with same | ends
    · rw [(List.cons.inj same).1, plain] at delimits
      cases delimits
    · exact ih ends

theorem lineContinuation_eq_some {cursor after : Cursor}
    (h : lineContinuation? cursor = some after) :
    (∃ c, isLineTerminator c = true ∧ cursor.rest = '\\' :: c :: after.rest) ∨
      cursor.rest = '\\' :: '\r' :: '\n' :: after.rest := by
  unfold lineContinuation? at h
  split at h
  · rename_i rest whole
    cases h
    exact .inr (by simp [whole, Cursor.advanceBy_rest])
  · rename_i c rest _ whole
    split at h
    · rename_i terminator
      cases h
      exact .inl ⟨c, terminator, by simp [whole, Cursor.advanceBy_rest]⟩
    · cases h
  · cases h

theorem lineContinuation_suffix {cursor after : Cursor}
    (h : lineContinuation? cursor = some after) : after.rest <:+ cursor.rest := by
  rcases lineContinuation_eq_some h with ⟨c, -, whole⟩ | whole
  · exact ⟨['\\', c], whole.symm⟩
  · exact ⟨['\\', '\r', '\n'], whole.symm⟩

namespace Ending

variable {ending : Ending}

/-- Inside a string with this delimiter, the literal has not been entered by its own quote. -/
def Unentered (ending : Ending) (delimiter : Char) (text : Text) : Prop :=
  delimiter = ending.quote → text.length ≤ 1 ∨ ending.literal <:+ text

theorem Unentered.tail {delimiter c : Char} {rest : Text}
    (h : ending.Unentered delimiter (c :: rest)) (other : c ≠ delimiter) :
    ending.Unentered delimiter rest := by
  intro same
  rcases h same with short | ends
  · exact .inl (Nat.le_of_succ_le short)
  · rcases List.suffix_cons_iff.1 ends with whole | ends
    · exact absurd ((List.cons.inj whole).1.symm.trans same.symm) other
    · exact .inr ends

theorem Covers.clear_of_quote {delimiter : Char} {rest : Text}
    (h : ending.Covers (delimiter :: rest)) (quotes : delimiter = '\'' ∨ delimiter = '"')
    (unentered : ending.Unentered delimiter (delimiter :: rest)) : ending.Clear rest := by
  have space : Text.isSpace delimiter = false := by rcases quotes with rfl | rfl <;> decide
  cases h.steps with
  | clear clear => exact clear
  | comma here => rcases quotes with rfl | rfl <;> cases here
  | blank after => exact absurd rfl (ne_of_isSpace (ending.blank_of_suffix after) space)
  | opened => exact .lost List.suffix_rfl
  | closed here =>
    rcases unentered here with short | ends
    · simp at short
    · have long := ends.length_le
      simp [literal] at long

theorem Clear.unentered {delimiter : Char} {rest : Text} (h : ending.Clear (delimiter :: rest)) :
    ending.Unentered delimiter rest := by
  intro same
  generalize ht : delimiter :: rest = text at h
  cases h with
  | @ahead front =>
    cases front with
    | nil =>
      have comma : ',' = ending.quote := (List.cons.inj ht).1.symm.trans same
      exact absurd comma (quote_ne (by decide) (by decide))
    | cons d front =>
      obtain ⟨-, rfl⟩ := List.cons.inj ht
      exact .inr ⟨front ++ ',' :: ending.blanks, by simp [Ending.text]⟩
  | @lost inner inside =>
    cases inner with
    | nil =>
      obtain ⟨-, rfl⟩ := List.cons.inj ht
      exact .inl (Nat.le_refl 1)
    | cons d inner =>
      obtain ⟨rfl, -⟩ := List.cons.inj ht
      rw [same] at inside
      exact absurd (inside.subset (by simp)) ending.unquoted
  | nil => simp at ht

theorem Covers.of_backslash {rest : Text} (h : ending.Covers ('\\' :: rest)) :
    ∃ front, rest = front ++ ending.text := by
  generalize ht : '\\' :: rest = text at h
  cases h with
  | clear h =>
    cases h with
    | @ahead front =>
      cases front with
      | nil => simp [Ending.text] at ht
      | cons d front => exact ⟨front, (List.cons.inj ht).2⟩
    | @lost inner inside =>
      cases inner with
      | nil => exact absurd (List.cons.inj ht).1 (quote_ne (by decide) (by decide))
      | cons d inner =>
        obtain ⟨rfl, -⟩ := List.cons.inj ht
        exact absurd (inside.subset (by simp)) ending.unescaped
    | nil => simp at ht
  | @due blanks after =>
    cases blanks with
    | nil => exact absurd (List.cons.inj ht).1 (quote_ne (by decide) (by decide))
    | cons d blanks =>
      obtain ⟨rfl, -⟩ := List.cons.inj ht
      exact absurd rfl (ne_of_isSpace (d := '\\') (ending.blank_of_suffix after) (by decide))
  | close => simp at ht

theorem literal_suffix_of_backslash {c : Char} {rest : Text}
    (h : ending.Covers ('\\' :: c :: rest)) : ending.literal <:+ rest := by
  obtain ⟨front, whole⟩ := h.of_backslash
  cases front with
  | nil =>
    obtain ⟨-, rfl⟩ := List.cons.inj whole
    exact List.suffix_append ending.blanks ending.literal
  | cons d front =>
    obtain ⟨-, rfl⟩ := List.cons.inj whole
    exact ⟨front ++ ',' :: ending.blanks, by simp [Ending.text]⟩

end Ending

namespace StringReading

variable {ending : Ending} {delimiter : Char}

/-- A string that is closed leaves a clear place: it does not end with the quote that ends the
literal. -/
theorem clear_of_closed {fuel : Nat} {cursor after : Cursor} {units codes : List Nat}
    {before notes : List Report} (quotes : delimiter = '\'' ∨ delimiter = '"')
    (covers : ending.Covers cursor.rest) (unentered : ending.Unentered delimiter cursor.rest)
    (h : continueFrom delimiter fuel cursor units before = .closed codes notes after) :
    ending.Clear after.rest := by
  have backslash : '\\' ≠ delimiter := by rcases quotes with rfl | rfl <;> decide
  fun_induction continueFrom delimiter fuel cursor units before with
  -- behind a backslash the literal is still ahead as a whole
  | case2 fuel cursor units before next continued ih =>
    refine ih (covers.suffix (lineContinuation_suffix continued)) ?_ h
    rcases lineContinuation_eq_some continued with ⟨c, terminator, whole⟩ | whole
    · rw [whole] at covers
      intro same
      exact .inr (Ending.literal_suffix_of_backslash covers)
    · rw [whole] at unentered
      refine ((unentered.tail backslash).tail ?_).tail ?_ <;>
        rcases quotes with rfl | rfl <;> decide
  | case4 fuel cursor units before going rest whole codes next escape ih =>
    obtain ⟨c, rest, rfl, reads⟩ := Escape.exists_of_units escape
    rw [whole] at covers
    refine ih (covers.tail.tail.suffix reads.suffix) (fun same => .inr ?_) h
    refine reads.keeps ?_ (Ending.literal_suffix_of_backslash covers)
    rcases ending.quotes with q | q <;> rw [q] <;> decide
  | case5 fuel cursor units before going rest whole next escape ih =>
    obtain ⟨c, rfl⟩ := Escape.exists_of_legacy escape
    rw [whole] at covers
    exact ih covers.tail.tail (fun same => .inr (Ending.literal_suffix_of_backslash covers)) h
  | case7 fuel cursor units before going rest unescaped whole =>
    cases h
    rw [whole] at covers unentered
    rw [Cursor.advance_rest, whole]
    exact covers.clear_of_quote quotes unentered
  | case9 fuel cursor units before going c rest unescaped whole other newline ih =>
    rw [whole] at covers unentered
    refine ih ?_ ?_ h <;> rw [Cursor.advance_rest, whole]
    · exact covers.tail
    · exact unentered.tail other
  | case1 | case3 | case6 | case8 => cases h

theorem suffix_of_failed {fuel : Nat} {cursor after : Cursor} {units : List Nat}
    {before notes : List Report} {report : Report}
    (h : continueFrom delimiter fuel cursor units before = .failed report notes after) :
    after.rest <:+ cursor.rest := by
  fun_induction continueFrom delimiter fuel cursor units before with
  | case2 fuel cursor units before next continued ih =>
    exact (ih h).trans (lineContinuation_suffix continued)
  | case4 fuel cursor units before going rest whole codes next escape ih =>
    rw [whole]
    exact ((ih h).trans (Escape.suffix_of_units escape)).trans (List.suffix_cons ..)
  | case5 fuel cursor units before going rest whole next escape ih =>
    rw [whole]
    exact ((ih h).trans (Escape.suffix_of_legacy escape)).trans (List.suffix_cons ..)
  | case6 =>
    cases h
    rw [Cursor.advance_rest]
    exact List.tail_suffix _
  | case9 fuel cursor units before going c rest unescaped whole other newline ih =>
    rw [Cursor.advance_rest] at ih
    exact (ih h).trans (List.tail_suffix _)
  | case1 | case3 | case7 | case8 => cases h

end StringReading

namespace ChunkReading

inductive Stops (text : Text) : ChunkReading → Prop
  | closed {chunk : Chunk} {after : Cursor} (behind : Behind text after.rest) :
      Stops text (.closed chunk after)
  | opened {chunk : Chunk} {after : Cursor} (behind : Behind text after.rest) :
      Stops text (.opened chunk after)
  | unterminated {after : Cursor} (suffix : after.rest <:+ text) : Stops text (.unterminated after)

theorem Stops.of_suffix {whole text : Text} {reading : ChunkReading} (s : text <:+ whole)
    (h : Stops text reading) : Stops whole reading := by
  cases h with
  | closed behind => exact .closed (behind.of_suffix s)
  | opened behind => exact .opened (behind.of_suffix s)
  | unterminated suffix => exact .unterminated (suffix.trans s)

theorem stops_continueFrom (fuel : Nat) (cursor : Cursor) (units : List Nat)
    (fault : Option Report) : Stops cursor.rest (continueFrom fuel cursor units fault) := by
  have two (cursor : Cursor) : (Cursor.advanceBy 2 cursor).rest <:+ cursor.rest := by
    rw [Cursor.advanceBy_rest]
    exact List.drop_suffix _ _
  fun_induction continueFrom fuel cursor units fault with
  | case1 | case3 => exact .unterminated List.suffix_rfl
  | case2 fuel cursor units fault next continued ih =>
    exact ih.of_suffix (lineContinuation_suffix continued)
  | case4 fuel cursor units fault going rest whole codes next escape ih =>
    rw [whole]
    exact ih.of_suffix ((Escape.suffix_of_units escape).trans (List.suffix_cons ..))
  | case5 fuel cursor units fault going rest whole next escape ih =>
    rw [whole]
    exact ih.of_suffix ((Escape.suffix_of_legacy escape).trans (List.suffix_cons ..))
  | case6 fuel cursor units fault going rest whole reason escape ih => exact ih.of_suffix (two cursor)
  | case7 fuel cursor units fault going rest whole =>
    refine .opened ?_
    rw [Cursor.advanceBy_rest, whole]
    exact .cons _ (.last (by decide))
  | case8 fuel cursor units fault going rest whole ih => exact ih.of_suffix (two cursor)
  | case9 fuel cursor units fault going c rest unescaped unopened single whole mark =>
    refine .closed ?_
    rw [Cursor.advance_rest, whole, show c = '\x60' from Char.toNat_inj.1 mark]
    exact .last (by decide)
  | case10 fuel cursor units fault going c rest unescaped unopened single whole other ih =>
    rw [Cursor.advance_rest] at ih
    exact ih.of_suffix (List.tail_suffix _)

end ChunkReading

end MessageHarvest.Script
