import MessageHarvest.Json.Decoder
import MessageHarvest.Proofs.Json.Grammar
import MessageHarvest.Proofs.Json.Number
import MessageHarvest.Proofs.Text.Hex

namespace MessageHarvest.Json

section Blanks

theorem skipSpace_solid {c : Char} (solid : isBlank c = false) (rest : Text) :
    skipSpace (c :: rest) = c :: rest := by
  unfold isBlank at solid
  rw [skipSpace, solid]
  rfl

theorem skipSpace_blanks {blanks : Text} (blank : AreBlanks blanks) (rest : Text) :
    skipSpace (blanks ++ rest) = skipSpace rest := by
  induction blanks with
  | nil => rfl
  | cons c blanks ih =>
    obtain ⟨first, others⟩ := List.forall_mem_cons.1 blank
    rw [isBlank] at first
    rw [List.cons_append, skipSpace, first, if_pos rfl, ih others]

theorem skipSpace_skipSpace (text : Text) : skipSpace (skipSpace text) = skipSpace text := by
  induction text with
  | nil => rfl
  | cons c rest ih =>
    cases blank : isBlank c with
    | true =>
      have skipped : skipSpace (c :: rest) = skipSpace rest :=
        skipSpace_blanks (List.forall_mem_singleton.2 blank) rest
      rw [skipped, ih]
    | false => rw [skipSpace_solid blank, skipSpace_solid blank]

def EndsValue (rest : Text) : Prop :=
  ∀ c ∈ rest.head?, isBlank c = true ∨ c = ',' ∨ c = ']' ∨ c = '\x7d'

theorem EndsValue.append {blanks rest : Text} (ends : EndsValue rest) (blank : AreBlanks blanks) :
    EndsValue (blanks ++ rest) := by
  cases blanks with
  | nil => exact ends
  | cons c blanks =>
    intro d mem
    obtain rfl := Option.some.inj mem
    exact .inl (blank c (List.mem_cons_self ..))

def BeginsValue (text : Text) : Prop := ∃ c rest, text = c :: rest ∧ isBlank c = false ∧ c ≠ ']'

theorem BeginsValue.skipSpace {text : Text} (begins : BeginsValue text) :
    Json.skipSpace text = text := by
  obtain ⟨c, rest, rfl, solid, -⟩ := begins
  exact skipSpace_solid solid rest

theorem BeginsValue.append {text : Text} (begins : BeginsValue text) (rest : Text) :
    BeginsValue (text ++ rest) := by
  obtain ⟨c, more, rfl, solid, other⟩ := begins
  exact ⟨c, more ++ rest, rfl, solid, other⟩

theorem BeginsValue.length_pos {text : Text} (begins : BeginsValue text) : 0 < text.length := by
  obtain ⟨c, rest, rfl, -⟩ := begins
  exact Nat.succ_pos _

/-- A value whose draft has the property, whatever follows. Which draft it is may depend on that, for a
fault counts the characters behind it. The fuel is counted against the whole text, as in the definition
of the reader. -/
structure Reads (text : Text) (P : Draft → Prop) : Prop where
  begins : BeginsValue text
  read {fuel : Nat} {shown rest : Text} (opened : skipSpace shown = text ++ rest)
    (ends : EndsValue rest) (enough : 3 * (text ++ rest).length + 1 ≤ fuel) :
    ∃ draft, readDraft fuel shown = (draft, some rest) ∧ P draft

theorem Reads.mono {text : Text} {P Q : Draft → Prop} (reads : Reads text P)
    (weaker : ∀ draft, P draft → Q draft) : Reads text Q where
  begins := reads.begins
  read opened ends enough := by
    obtain ⟨draft, read, holds⟩ := reads.read opened ends enough
    exact ⟨draft, read, weaker draft holds⟩

theorem reads_leaf {text : Text} {P : Draft → Prop} (begins : BeginsValue text)
    (read : ∀ {fuel : Nat} {shown rest : Text}, skipSpace shown = text ++ rest → EndsValue rest →
      ∃ draft, readDraft (fuel + 1) shown = (draft, some rest) ∧ P draft) : Reads text P where
  begins := begins
  read {fuel _ _} opened ends enough := by
    obtain ⟨fuel, rfl⟩ := Nat.exists_eq_add_of_le' (Nat.le_trans (Nat.le_add_left 1 _) enough)
    exact read opened ends

end Blanks

section Words

theorem reads_null : Reads "null".toList (.scalar .null = ·) :=
  reads_leaf ⟨'n', _, rfl, rfl, by decide⟩ fun opened _ => ⟨_, by rw [readDraft, opened]; rfl, rfl⟩

theorem reads_true : Reads "true".toList (.scalar (.bool true) = ·) :=
  reads_leaf ⟨'t', _, rfl, rfl, by decide⟩ fun opened _ => ⟨_, by rw [readDraft, opened]; rfl, rfl⟩

theorem reads_false : Reads "false".toList (.scalar (.bool false) = ·) :=
  reads_leaf ⟨'f', _, rfl, rfl, by decide⟩ fun opened _ => ⟨_, by rw [readDraft, opened]; rfl, rfl⟩

end Words

section Strings

variable {body : Text} {points : List Nat}

theorem StringReading.continueFrom_spells (spelled : Spells body points) (units : List Nat)
    (rest : Text) :
    continueFrom units (body ++ '"' :: rest) =
      .closed (Text.ofUnits? (units.reverse ++ points)) rest := by
  induction spelled generalizing units with
  | nothing => simp [continueFrom]
  | @plain c body points printable quote backslash others ih =>
    have next : continueFrom units (c :: (body ++ '"' :: rest)) =
        continueFrom (c.toNat :: units) (body ++ '"' :: rest) := by
      rw [continueFrom]
      · exact if_neg (Nat.not_lt.2 printable)
      all_goals simp_all
    rw [List.cons_append, next, ih]
    simp
  | @short c unit body points escape others ih =>
    have next : continueFrom units ('\\' :: c :: (body ++ '"' :: rest)) =
        continueFrom (unit :: units) (body ++ '"' :: rest) := by
      simp only [shortEscapes, List.mem_cons, Prod.mk.injEq, List.not_mem_nil, or_false] at escape
      rcases escape with ⟨rfl, rfl⟩ | ⟨rfl, rfl⟩ | ⟨rfl, rfl⟩ | ⟨rfl, rfl⟩ | ⟨rfl, rfl⟩ | ⟨rfl, rfl⟩ |
        ⟨rfl, rfl⟩ | ⟨rfl, rfl⟩ <;> rfl
    rw [List.cons_append, List.cons_append, next, ih]
    simp
  | @unit a b c d unit body points digits others ih =>
    have next : continueFrom units ('\\' :: 'u' :: a :: b :: c :: d :: (body ++ '"' :: rest)) =
        continueFrom (unit :: units) (body ++ '"' :: rest) := by
      rw [continueFrom, digits]
    simp only [List.cons_append]
    rw [next, ih]
    simp

theorem bounded_of_spells (spelled : Spells body points) : ∀ n ∈ points, n < 0x110000 := by
  induction spelled with
  | nothing => exact List.forall_mem_nil _
  | @plain c body points printable quote backslash others ih =>
    exact List.forall_mem_cons.2 ⟨Text.toNat_lt c, ih⟩
  | @short c unit body points escape others ih =>
    have small : ∀ entry ∈ shortEscapes, entry.2 < 0x110000 := by decide
    exact List.forall_mem_cons.2 ⟨small _ escape, ih⟩
  | @unit a b c d unit body points digits others ih =>
    obtain ⟨hex, -, four, -, rfl⟩ := Text.takeHex?_eq_some_iff.1 digits
    have small := Text.hexNumber_lt hex
    rw [four] at small
    exact List.forall_mem_cons.2 ⟨Nat.lt_trans small (by decide), ih⟩

theorem Denotes.exists_points {text : Text} (denotes : Denotes body text) :
    ∃ points, Spells body points ∧ Text.ofUnits? points = some text := by
  obtain ⟨points, spelled, units⟩ := denotes
  exact ⟨points, spelled, Text.ofUnits?_eq_some (bounded_of_spells spelled) units⟩

theorem quoted_append (body rest : Text) : quoted body ++ rest = '"' :: (body ++ '"' :: rest) := by
  simp [quoted]

theorem reads_of_readString {P : Draft → Prop}
    (read : ∀ rest, ∃ draft, readString (body ++ '"' :: rest) = (draft, some rest) ∧ P draft) :
    Reads (quoted body) P := by
  refine reads_leaf ⟨'"', _, rfl, rfl, by decide⟩ fun {fuel shown rest} opened _ => ?_
  rw [quoted_append] at opened
  rw [readDraft, opened]
  exact read rest

theorem Denotes.reads {text : Text} (denotes : Denotes body text) :
    Reads (quoted body) (.scalar (.string text) = ·) := by
  obtain ⟨points, spelled, units⟩ := denotes.exists_points
  refine reads_of_readString fun rest => ⟨_, ?_, rfl⟩
  rw [readString, StringReading.continueFrom_spells spelled, List.reverse_nil, List.nil_append,
    units]

theorem Spells.reads (spelled : Spells body points) :
    Reads (quoted body) (Decoder.skip · = .ok ()) := by
  refine reads_of_readString fun rest => ?_
  rw [readString, StringReading.continueFrom_spells spelled]
  cases Text.ofUnits? ([].reverse ++ points) with
  | none => exact ⟨_, rfl, rfl⟩
  | some text => exact ⟨_, rfl, rfl⟩

end Strings

section Numbers

theorem ne_of_isDigit {c d : Char} (digit : c.isDigit = true) (other : d.isDigit = false) :
    c ≠ d := by
  rintro rfl
  cases digit.symm.trans other

theorem isBlank_of_isDigit {c : Char} (digit : c.isDigit = true) : isBlank c = false := by
  simp [isBlank, ne_of_isDigit digit]

theorem beginsValue_number {c : Char} (first : c = '-' ∨ c.isDigit = true) {rest : Text} :
    BeginsValue (c :: rest) := by
  refine ⟨c, rest, rfl, ?_⟩
  rcases first with rfl | digit
  · decide
  · exact ⟨isBlank_of_isDigit digit, ne_of_isDigit digit rfl⟩

theorem readDraft_number {c : Char} (first : c = '-' ∨ c.isDigit = true) {fuel : Nat}
    {text rest : Text} (shown : skipSpace text = c :: rest) :
    readDraft (fuel + 1) text = readNumber (c :: rest) := by
  rcases first with rfl | digit
  · simp [readDraft, shown]
  · have other {d : Char} (h : d.isDigit = false) : c ≠ d := ne_of_isDigit digit h
    rw [readDraft, shown]
    simp only
    split <;> simp_all

variable {text sign whole fraction exponent rest : Text}

theorem EndsValue.endsNumber (ends : EndsValue rest) : EndsNumber rest := by
  intro c mem
  rcases ends c mem with blank | rfl | rfl | rfl
  · simp only [isBlank, Bool.or_eq_true, decide_eq_true_eq] at blank
    rcases blank with ((rfl | rfl) | rfl) | rfl <;> decide
  all_goals decide

theorem IsExponent.stops (given : IsExponent exponent) (ends : EndsValue rest) :
    ∀ c ∈ (exponent ++ rest).head?, c.isDigit = false ∧ c ≠ '.' := by
  intro c mem
  rcases given with rfl | ⟨mark, sign, digits, rfl, marked, -, -⟩
  · obtain ⟨digit, point, -⟩ := ends.endsNumber c mem
    exact ⟨digit, point⟩
  · obtain rfl := Option.some.inj mem
    rcases marked with rfl | rfl <;> decide

theorem IsFraction.stops (given : IsFraction fraction) (exponential : IsExponent exponent)
    (ends : EndsValue rest) :
    ∀ c ∈ (fraction ++ (exponent ++ rest)).head?, c.isDigit = false := by
  intro c mem
  rcases given with rfl | ⟨digits, rfl, -⟩
  · exact (exponential.stops ends c mem).1
  · obtain rfl := Option.some.inj mem
    rfl

namespace NumberReading

theorem exponentDigits_read {digits : Text} (given : AreDigits digits) (ends : EndsValue rest)
    (number : Written) (sign : Char) :
    ∃ written, exponentDigits number sign (digits ++ rest) = .read written rest := by
  obtain ⟨some, all⟩ := given
  obtain ⟨front, behind⟩ := digitsOf_append all fun c mem => (ends.endsNumber c mem).1
  rw [exponentDigits, front, behind]
  split
  · contradiction
  · exact ⟨_, rfl⟩

theorem exponent_read (given : IsExponent exponent) (ends : EndsValue rest) (number : Written) :
    ∃ written, NumberReading.exponent number (exponent ++ rest) = .read written rest := by
  rcases given with rfl | ⟨mark, sign, digits, rfl, marked, signed, given⟩
  · cases rest with
    | nil => exact ⟨number, rfl⟩
    | cons c rest =>
      obtain ⟨-, -, small, large⟩ := ends.endsNumber c rfl
      exact ⟨number, by simp [NumberReading.exponent, small, large]⟩
  · have read := exponentDigits_read given ends number
    have opened : (decide (mark = 'e') || decide (mark = 'E')) = true := by
      rcases marked with rfl | rfl <;> rfl
    simp only [List.cons_append, List.append_assoc, NumberReading.exponent, opened, if_true]
    rcases signed with rfl | rfl | rfl
    · -- a digit is no sign
      obtain ⟨some, all⟩ := given
      obtain ⟨d, digits, rfl⟩ := List.exists_cons_of_ne_nil some
      have digit := all d (List.mem_cons_self ..)
      rw [List.nil_append, List.cons_append]
      split
      · rename_i same
        exact absurd (List.cons.inj same).1 (ne_of_isDigit digit rfl)
      · rename_i same
        exact absurd (List.cons.inj same).1 (ne_of_isDigit digit rfl)
      · exact read '+'
    · exact read '+'
    · exact read '-'

theorem fraction_read (given : IsFraction fraction) (exponential : IsExponent exponent)
    (ends : EndsValue rest) (number : Written) :
    ∃ written, NumberReading.fraction number (fraction ++ (exponent ++ rest)) =
      .read written rest := by
  have stops := exponential.stops ends
  rcases given with rfl | ⟨digits, rfl, some, all⟩
  · unfold NumberReading.fraction
    split
    · rename_i shown
      rw [List.nil_append] at shown
      rw [shown] at stops
      exact absurd rfl (stops '.' rfl).2
    · exact exponent_read exponential ends number
  · obtain ⟨front, behind⟩ := digitsOf_append all fun c mem => (stops c mem).1
    rw [List.cons_append, NumberReading.fraction, front, behind]
    split
    · contradiction
    · exact exponent_read exponential ends _

theorem whole_read (digits : AreDigits whole) (alone : whole.head? = some '0' → whole = ['0'])
    (fractional : IsFraction fraction) (exponential : IsExponent exponent) (ends : EndsValue rest)
    (negative : Bool) :
    ∃ written, NumberReading.whole negative (whole ++ (fraction ++ (exponent ++ rest))) =
      .read written rest := by
  obtain ⟨some, all⟩ := digits
  obtain ⟨front, behind⟩ := digitsOf_append all (fractional.stops exponential ends)
  rw [NumberReading.whole, front, behind]
  split
  · contradiction
  · cases alone rfl
  · exact fraction_read fractional exponential ends _

end NumberReading

theorem IsNumber.ofText_read (number : IsNumber text) (ends : EndsValue rest) :
    ∃ written, NumberReading.ofText (text ++ rest) = .read written rest := by
  obtain ⟨signed, digits, alone, fractional, exponential⟩ := number
  have read := NumberReading.whole_read digits alone fractional exponential ends
  simp only [List.append_assoc]
  rcases signed with rfl | rfl
  · obtain ⟨some, all⟩ := digits
    obtain ⟨d, whole, rfl⟩ := List.exists_cons_of_ne_nil some
    have digit := all d (List.mem_cons_self ..)
    rw [List.nil_append, List.cons_append]
    unfold NumberReading.ofText
    split
    · rename_i same
      exact absurd (List.cons.inj same).1 (ne_of_isDigit digit rfl)
    · exact read false
  · exact read true

theorem IsNumber.leading (number : IsNumber text) :
    ∃ c more, text = c :: more ∧ (c = '-' ∨ c.isDigit = true) := by
  obtain ⟨signed, ⟨some, all⟩, -, -, -⟩ := number
  rcases signed with rfl | rfl
  · obtain ⟨d, whole, rfl⟩ := List.exists_cons_of_ne_nil some
    exact ⟨d, _, rfl, .inr (all d (List.mem_cons_self ..))⟩
  · exact ⟨'-', _, rfl, .inl rfl⟩

theorem IsNumber.reads (number : IsNumber text) : Reads text (Decoder.skip · = .ok ()) := by
  obtain ⟨c, more, rfl, first⟩ := number.leading
  refine reads_leaf (beginsValue_number first) fun opened ends => ?_
  obtain ⟨written, read⟩ := number.ofText_read ends
  rw [List.cons_append] at opened read
  rw [readDraft_number first opened, readNumber, read]
  simp only
  cases written.value? with
  | none => exact ⟨_, rfl, rfl⟩
  | some value => exact ⟨_, rfl, rfl⟩

end Numbers

end MessageHarvest.Json
