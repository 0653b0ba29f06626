import MessageHarvest.Proofs.Script.Reading

namespace MessageHarvest.Script

namespace WordReading

/-- A word takes plain characters only from `start` on; a malformed one leaves some suffix. -/
inductive Stops (start whole : Text) : WordReading → Prop
  | word {name : Text} {escaped : Bool} {after : Text} (reads : Reads start after) :
      Stops start whole (.word name escaped after)
  | malformed {fault : Fault} {after : Text} (suffix : after <:+ whole) :
      Stops start whole (.malformed fault after)

theorem Stops.before {start whole text : Text} {reading : WordReading} (reads : Reads start text)
    (suffix : text <:+ whole) (h : Stops text text reading) : Stops start whole reading := by
  cases h with
  | word later => exact .word (reads.trans later)
  | malformed later => exact .malformed (later.trans suffix)

theorem isPlain_of_continuesWord {before : Text} {c : Char} (h : continuesWord before c = true) :
    isPlain c = true := by
  cases before with
  | nil => exact isPlain_of_startsIdentifier h
  | cons d before => exact isPlain_of_continuesIdentifier h

theorem stops_continueFrom (fuel : Nat) (before : Text) (escaped : Bool) (text : Text) :
    Stops text text (continueFrom fuel before escaped text) := by
  induction fuel generalizing before escaped text with
  | zero => exact .word (.refl text)
  | succ fuel ih =>
    unfold continueFrom
    split
    · exact .word (.refl [])
    · rename_i digits
      have marked {after : Text} (reads : Reads digits after) :
          Reads ('\\' :: 'u' :: digits) after :=
        .cons (by decide) (.cons (by decide) reads)
      have digits_suffix := (marked (.refl digits)).suffix
      split
      · rename_i code after escape
        have reads := marked (Escape.reads_unicode escape)
        split
        · exact (ih ..).before reads reads.suffix
        · exact .malformed reads.suffix
      · exact .malformed digits_suffix
      · exact .malformed digits_suffix
    · exact .malformed (List.suffix_cons _ _)
    · rename_i c after _ _
      split
      · rename_i continues
        have reads : Reads (c :: after) after := .single (isPlain_of_continuesWord continues)
        exact (ih ..).before reads reads.suffix
      · exact .word (.refl _)

theorem stops_ofText {c : Char} {text : Text} (first : c = '\\' ∨ Text.startsIdentifier c = true) :
    Stops text (c :: text) (ofText (c :: text)) := by
  have later {fuel : Nat} {before rest : Text} {escaped : Bool} (reads : Reads text rest) :
      Stops text (c :: text) (continueFrom fuel before escaped rest) :=
    (stops_continueFrom ..).before reads (reads.suffix.trans (List.suffix_cons c text))
  generalize whole : c :: text = source at later ⊢
  unfold ofText continueFrom
  split
  · cases whole
  · rename_i digits
    obtain ⟨-, rfl⟩ := List.cons.inj whole
    have digits_suffix : digits <:+ '\\' :: 'u' :: digits := ⟨['\\', 'u'], rfl⟩
    split
    · rename_i code after escape
      have reads : Reads ('u' :: digits) after := .cons (by decide) (Escape.reads_unicode escape)
      split
      · exact later reads
      · exact .malformed (reads.suffix.trans (List.suffix_cons _ _))
    · exact .malformed digits_suffix
    · exact .malformed digits_suffix
  · exact .malformed (List.suffix_cons _ _)
  · rename_i d after _ backslash
    obtain ⟨rfl, rfl⟩ := List.cons.inj whole
    have starts : continuesWord [] c = true := by
      rcases first with rfl | starts
      · exact absurd rfl backslash
      · exact starts
    rw [if_pos starts]
    exact later (.refl text)

end WordReading

namespace Digits

theorem isPlain_of_digit {radix d : Nat} {c : Char} (h : digit? radix c = some d) :
    isPlain c = true := by
  unfold digit? at h
  split at h
  · rename_i e hex
    exact isPlain_of_hexDigit hex
  · cases h

theorem reads_span (radix : Nat) (text : Text) : Reads text (span radix text).rest := by
  induction text with
  | nil => exact .refl []
  | cons c text ih =>
    rw [span]
    split
    · rename_i d digit
      exact .cons (isPlain_of_digit digit) ih
    · split
      · rename_i separator
        subst separator
        exact .cons (by decide) ih
      · exact .refl _

end Digits

namespace Numeral

theorem rest_close (notes : List Fault) (text : Text) : (close notes text).rest = text := by
  unfold close
  split
  · split <;> rfl
  · rfl

theorem reads_exponentDigits (notes : List Fault) (text : Text) :
    Reads text (exponentDigits notes text).rest := by
  have span := Digits.reads_span 10 text
  unfold exponentDigits
  dsimp only
  split
  · exact span
  · rw [rest_close]
    exact span

theorem reads_exponent (notes : List Fault) (text : Text) :
    Reads text (exponent notes text).rest := by
  unfold exponent
  split
  · rename_i c rest
    split
    · rename_i letter
      have plain : isPlain c = true := by
        simp only [Bool.or_eq_true, decide_eq_true_eq] at letter
        rcases letter with rfl | rfl <;> decide
      split
      · exact .single plain
      · rename_i sign after
        split
        · rename_i signed
          have plainSign : isPlain sign = true := by
            simp only [Bool.or_eq_true, decide_eq_true_eq] at signed
            rcases signed with rfl | rfl <;> decide
          exact .cons plain (.cons plainSign (reads_exponentDigits ..))
        · exact .cons plain (reads_exponentDigits ..)
    · rw [rest_close]
      exact .refl _
  · rw [rest_close]
    exact .refl _

theorem reads_fraction_dot (notes : List Fault) (text : Text) :
    Reads text (fraction notes ('.' :: text)).rest :=
  (Digits.reads_span 10 text).trans (reads_exponent ..)

theorem reads_fraction (notes : List Fault) (text : Text) :
    Reads text (fraction notes text).rest := by
  unfold fraction
  split
  · exact .cons (by decide) (reads_fraction_dot notes _)
  · exact reads_exponent ..

theorem reads_withRadix (radix : Nat) (text : Text) : Reads text (withRadix radix text).rest := by
  have span := Digits.reads_span radix text
  unfold withRadix
  dsimp only
  split
  · exact span
  · split
    · rename_i after whole
      rw [whole] at span
      exact span.trans (.single (by decide))
    · rw [rest_close]
      exact span

theorem reads_decimal {source text : Text} (span : Reads text (Digits.span 10 source).rest) :
    Reads text (decimal source).rest := by
  unfold decimal
  dsimp only
  split
  · rename_i after whole
    rw [whole] at span
    exact span.trans (.single (by decide))
  · split
    · split
      · split
        · exact span.trans (reads_fraction ..)
        · rw [rest_close]
          exact span
      · split
        · exact span.trans (reads_fraction ..)
        · rw [rest_close]
          exact span
    · exact span.trans (reads_fraction ..)

theorem digit_of_isDigit {c : Char} (h : c.isDigit = true) : ∃ d, Digits.digit? 10 c = some d := by
  simp only [Char.isDigit, Bool.and_eq_true, decide_eq_true_eq] at h
  have bounds : '0' ≤ c ∧ c ≤ '9' := h
  have high : c.toNat ≤ 57 := h.2
  refine ⟨c.toNat - 48, ?_⟩
  have small : c.toNat - 48 < 10 := by omega
  simp [Digits.digit?, Text.hexDigit?, bounds, small]

theorem reads_ofText {c : Char} {text : Text}
    (first : c.isDigit = true ∨ Cut.fractionFirst (c :: text) = true) :
    Reads text (ofText (c :: text)).rest := by
  have decimal (digit : c.isDigit = true) : Reads text (decimal (c :: text)).rest := by
    apply reads_decimal
    obtain ⟨d, hd⟩ := digit_of_isDigit digit
    rw [Digits.span, hd]
    exact Digits.reads_span 10 text
  generalize whole : c :: text = source at first decimal ⊢
  unfold ofText
  -- a zero with a letter or more digits behind it, a fraction, or any other number
  split
  · rename_i mark rest
    obtain ⟨rfl, rfl⟩ := List.cons.inj whole
    have marked {lower upper : Char} {radix : Nat} (letter : mark = lower ∨ mark = upper)
        (plain : isPlain lower = true ∧ isPlain upper = true) :
        Reads (mark :: rest) (withRadix radix rest).rest := by
      refine .cons ?_ (reads_withRadix radix rest)
      rcases letter with rfl | rfl
      · exact plain.1
      · exact plain.2
    simp only [Bool.or_eq_true, decide_eq_true_eq]
    split
    · rename_i letter
      exact marked letter (by decide)
    · split
      · rename_i letter
        exact marked letter (by decide)
      · split
        · rename_i letter
          exact marked letter (by decide)
        · exact decimal (by decide)
  · obtain ⟨rfl, rfl⟩ := List.cons.inj whole
    exact reads_fraction_dot [] text
  · rename_i dot
    subst whole
    rcases first with digit | fraction
    · exact decimal digit
    · unfold Cut.fractionFirst at fraction
      split at fraction
      · rename_i digit rest whole
        exact absurd whole (dot _)
      · cases fraction

end Numeral

namespace Mark

theorem spellings_plain : ∀ entry ∈ spellings,
    (entry.2 = .comma ∧ entry.1 = [',']) ∨
      (entry.2 ≠ .comma ∧ entry.1 ≠ [] ∧ entry.1.all isPlain = true) := by
  decide

theorem behind_append {spelled rest : Text} (plain : spelled.all isPlain = true)
    (some : spelled ≠ []) : Behind (spelled ++ rest) rest := by
  induction spelled with
  | nil => exact absurd rfl some
  | cons c spelled ih =>
    rw [List.all_cons, Bool.and_eq_true] at plain
    cases spelled with
    | nil => exact .last plain.1
    | cons d spelled => exact (ih plain.2 (by simp)).cons c

theorem stops_ofText? {source rest : Text} {mark : Mark} (h : ofText? source = some (mark, rest)) :
    (mark = .comma ∧ source = ',' :: rest) ∨ (mark ≠ .comma ∧ Behind source rest) := by
  unfold ofText? at h
  split at h
  · split at h
    · cases h
      exact .inr ⟨by decide, .last (by decide)⟩
    · cases h
      exact .inr ⟨by decide, .cons _ (.last (by decide))⟩
  · cases h
    exact .inr ⟨by decide, .last (by decide)⟩
  · obtain ⟨spelled, entry, rfl⟩ := longestIn_eq_some h
    rcases spellings_plain _ entry with ⟨comma, single⟩ | ⟨other, some, plain⟩
    · exact .inl ⟨comma, congrArg (· ++ rest) single⟩
    · exact .inr ⟨other, behind_append plain some⟩

theorem eq_of_ofText? {source rest spelled : Text} {mark : Mark}
    (h : ofText? source = some (mark, rest))
    (spelled_eq : ∀ entry ∈ spellings, entry.2 = mark → entry.1 = spelled)
    (exact : mark ≠ .question ∧ mark ≠ .chain ∧ mark ≠ .less) : source = spelled ++ rest := by
  obtain ⟨notQuestion, notChain, notLess⟩ := exact
  unfold ofText? at h
  split at h
  · split at h
    · cases h
      exact absurd rfl notQuestion
    · cases h
      exact absurd rfl notChain
  · cases h
    exact absurd rfl notLess
  · obtain ⟨written, entry, rfl⟩ := longestIn_eq_some h
    rw [← spelled_eq _ entry rfl]

end Mark

namespace RegexpBody

inductive Stops (text : Text) : RegexpBody → Prop
  | closed {rest : Text} (behind : Behind text rest) : Stops text (.closed rest)
  | cut {rest : Text} (suffix : rest <:+ text) : Stops text (.cut rest)

theorem Stops.cons {text : Text} {body : RegexpBody} (c : Char) (h : Stops text body) :
    Stops (c :: text) body := by
  cases h with
  | closed behind => exact .closed (behind.cons c)
  | cut suffix => exact .cut (suffix.trans (List.suffix_cons c text))

theorem stops_ofText (escaped inClass : Bool) (text : Text) :
    Stops text (ofText escaped inClass text) := by
  induction text generalizing escaped inClass with
  | nil => exact .cut List.suffix_rfl
  | cons c text ih =>
    unfold ofText
    split
    · exact .cut List.suffix_rfl
    · split
      · exact (ih ..).cons c
      · split
        · exact (ih ..).cons c
        · split
          · exact (ih ..).cons c
          · split
            · rename_i slash
              subst slash
              exact .closed (.last (by decide))
            · exact (ih ..).cons c

end RegexpBody

namespace RegexpReading

inductive Stops (text : Text) : RegexpReading → Prop
  | literal {notes : List Report} {after : Cursor} (behind : Behind text after.rest) :
      Stops text (.literal notes after)
  | broken {report : Report} {after : Cursor} (suffix : after.rest <:+ text) :
      Stops text (.broken report after)

theorem stops_ofFlags {line : Nat} {text rest : Text} (slash : Behind text rest) :
    Stops text (ofFlags line rest) := by
  unfold ofFlags
  split
  · have stops := WordReading.stops_continueFrom (rest.length + 1) [] false rest
    change WordReading.Stops rest rest (WordReading.ofText rest) at stops
    generalize WordReading.ofText rest = reading at stops
    cases stops with
    | word reads => exact .literal (slash.reads reads)
    | malformed suffix => exact .broken (suffix.trans slash.suffix)
  · exact .literal slash

theorem stops_ofCursor (start : Cursor) : Stops start.rest (ofCursor start) := by
  have body := (RegexpBody.stops_ofText false false start.advance.rest)
  have tail : start.advance.rest <:+ start.rest := by
    rw [Cursor.advance_rest]
    exact List.tail_suffix _
  unfold ofCursor
  generalize RegexpBody.ofText false false start.advance.rest = reading at body
  cases body with
  | closed behind => exact stops_ofFlags (behind.of_suffix tail)
  | cut suffix => exact .broken (suffix.trans tail)

end RegexpReading

theorem reads_markupWord (text : Text) : Reads text (markupWord text).2 := by
  induction text with
  | nil => exact .refl []
  | cons c text ih =>
    rw [markupWord]
    split
    · rename_i continues
      rw [Bool.or_eq_true, decide_eq_true_eq] at continues
      refine .cons ?_ ih
      rcases continues with rfl | continues
      · decide
      · exact isPlain_of_continuesIdentifier continues
    · exact .refl _

theorem markupRun_stops (text : Text) (line : Nat) (notes : List Report) :
    (markupRun text line notes).1.rest <:+ text ∧
      ∀ c rest, (markupRun text line notes).1.rest = c :: rest → c = '<' ∨ c = '\x7b' := by
  induction text generalizing line notes with
  | nil => exact ⟨List.suffix_rfl, fun c rest h => by cases h⟩
  | cons c text ih =>
    have later (line : Nat) (notes : List Report) :=
      And.intro ((ih line notes).1.trans (List.suffix_cons c text)) (ih line notes).2
    rw [markupRun]
    split
    · rename_i opens
      rw [Bool.or_eq_true, decide_eq_true_eq, decide_eq_true_eq] at opens
      refine ⟨List.suffix_rfl, fun d rest h => ?_⟩
      rw [← (List.cons.inj h).1]
      exact opens
    · dsimp only
      split
      · exact later ..
      · split <;> exact later ..

theorem clear_of_markupQuote {ending : Ending} {delimiter : Char} {text : Text} {line : Nat}
    {after : Cursor} (quotes : delimiter = '\'' ∨ delimiter = '"') (covers : ending.Covers text)
    (unentered : ending.Unentered delimiter text)
    (h : markupQuote? delimiter text line = some after) : ending.Clear after.rest := by
  induction text generalizing line with
  | nil => cases h
  | cons c text ih =>
    rw [markupQuote?] at h
    split at h
    · rename_i same
      subst same
      cases h
      exact covers.clear_of_quote quotes unentered
    · rename_i other
      exact ih covers.tail (unentered.tail other) h

end MessageHarvest.Script
