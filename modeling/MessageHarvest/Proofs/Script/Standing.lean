import MessageHarvest.Proofs.Script.PlainString
import MessageHarvest.Proofs.Script.Skipping

/-!
Where a token stands to the end of an argument list. As long as no fault is noted, whatever takes the
place of an early token is early, unless that token is the last comma or cannot be read.
-/

namespace MessageHarvest.Script

namespace Ending

variable {ending : Ending}

/-- The literal at the end is not current, and only behind the last comma does it come next. -/
inductive Early (ending : Ending) : Lexeme → Prop
  | read {lexeme : Lexeme} (start : ending.Covers lexeme.start.rest)
      (after : ending.Clear lexeme.after.rest)
      (close : lexeme.token = .mark .parenClose → ending.Within lexeme.after.rest)
      (word : ∀ text escaped, lexeme.token = .word text escaped → ending.Clear lexeme.start.rest) :
      Early ending lexeme
  | comma {lexeme : Lexeme} (token : lexeme.token = .mark .comma)
      (start : lexeme.start.rest = ending.text)
      (after : lexeme.after.rest = ending.blanks ++ ending.literal) : Early ending lexeme
  | broken {lexeme : Lexeme} {report : Report} (token : lexeme.token = .broken report)
      (start : ending.Covers lexeme.start.rest) (after : ending.Covers lexeme.after.rest) :
      Early ending lexeme

inductive Late (ending : Ending) : Lexeme → Prop
  | literal {lexeme : Lexeme} {value : Option Text} (token : lexeme.token = .string value)
      (start : lexeme.start.rest = ending.literal) (after : lexeme.after.rest = [')']) :
      Late ending lexeme
  | close {lexeme : Lexeme} (token : lexeme.token = .mark .parenClose)
      (start : lexeme.start.rest = [')']) (after : lexeme.after.rest = []) : Late ending lexeme

inductive Stands (ending : Ending) (lexeme : Lexeme) : Prop
  | early (early : ending.Early lexeme)
  | late (late : ending.Late lexeme)

theorem Stands.covers {lexeme : Lexeme} (h : ending.Stands lexeme) :
    ending.Covers lexeme.start.rest ∧ ending.Covers lexeme.after.rest := by
  cases h with
  | early early =>
    cases early with
    | read start after => exact ⟨start, .clear after⟩
    | comma token start after =>
      rw [start, after]
      have ahead : ending.Clear ([] ++ ending.text) := .ahead (by simp) (by simp [Shown])
      exact ⟨.clear ahead, .due List.suffix_rfl⟩
    | broken token start after => exact ⟨start, after⟩
  | late late =>
    cases late with
    | literal token start after =>
      rw [start, after]
      exact ⟨.due (List.nil_suffix), .close⟩
    | close token start after =>
      rw [start, after]
      exact ⟨.close, .clear .nil⟩

theorem clear_of_head {c : Char} {rest : Text} (h : ending.Covers (c :: rest))
    (paren : c ≠ ')') (plain : isPlain c = true) : ending.Clear (c :: rest) := by
  obtain ⟨-, single, double, space⟩ := isPlain_iff.1 plain
  generalize ht : c :: rest = text at h
  cases h with
  | clear clear => exact clear
  | @due blanks after =>
    cases blanks with
    | nil => exact absurd (List.cons.inj ht).1 (quote_ne single double)
    | cons d blanks =>
      obtain ⟨rfl, -⟩ := List.cons.inj ht
      exact absurd rfl (ne_of_isSpace (ending.blank_of_suffix after) space)
  | close => exact absurd (List.cons.inj ht).1 paren

end Ending

theorem Mark.first_of_ofText? {c : Char} {rest after : Text} {mark : Mark}
    (h : ofText? (c :: rest) = some (mark, after)) : c = ',' ∨ isPlain c = true := by
  generalize whole : c :: rest = source at h
  unfold ofText? at h
  split at h
  · obtain ⟨rfl, -⟩ := List.cons.inj whole
    exact .inr (by decide)
  · obtain ⟨rfl, -⟩ := List.cons.inj whole
    exact .inr (by decide)
  · subst whole
    obtain ⟨spelled, entry, split⟩ := longestIn_eq_some h
    rcases spellings_plain _ entry with ⟨-, single⟩ | ⟨-, some, plain⟩
    · dsimp only at single
      rw [single] at split
      exact .inl (List.cons.inj split).1
    · cases spelled with
      | nil => exact absurd rfl some
      | cons d spelled =>
        obtain ⟨rfl, -⟩ := List.cons.inj split
        rw [List.all_cons, Bool.and_eq_true] at plain
        exact .inr plain.1

namespace Cut

variable {ending : Ending} {start : Cursor} {newline : Bool} {notes : List Report}

def lexeme (cut : Cut) (start : Cursor) (newline : Bool) (notes : List Report) : Lexeme :=
  ⟨cut.token, start, newline, notes, cut.after⟩

theorem tail_suffix (start : Cursor) : start.advance.rest <:+ start.rest := by
  rw [Cursor.advance_rest]
  exact List.tail_suffix _

theorem early_template (covers : ending.Covers start.rest) :
    ending.Early ((template start).lexeme start newline notes) := by
  have stops := ChunkReading.stops_continueFrom (start.advance.rest.length + 1) start.advance [] none
  have next := covers.suffix (tail_suffix start)
  rw [template, ChunkReading.ofCursor]
  generalize ChunkReading.continueFrom _ start.advance [] none = reading at stops
  cases stops with
  | closed behind => exact .read covers (behind.clear next) (by simp [lexeme]) (by simp [lexeme])
  | opened behind => exact .read covers (behind.clear next) (by simp [lexeme]) (by simp [lexeme])
  | unterminated suffix => exact .broken rfl covers (next.suffix suffix)

theorem early_string {c : Char} {rest : Text} (quotes : c = '\'' ∨ c = '"')
    (clear : ending.Clear start.rest) (whole : start.rest = c :: rest)
    (faultless : (string c start).notes = []) :
    ending.Early ((string c start).lexeme start newline notes) := by
  have tail : start.advance.rest = rest := by rw [Cursor.advance_rest, whole]; rfl
  have covers := Ending.Covers.clear clear
  have next := covers.suffix (tail_suffix start)
  have unentered : ending.Unentered c start.advance.rest := by
    rw [whole] at clear
    rw [tail]
    exact clear.unentered
  revert faultless
  rw [string]
  generalize reading : StringReading.ofCursor c start.advance = found
  cases found with
  | closed codes notes after =>
    intro _
    have ended := StringReading.clear_of_closed quotes next unentered reading
    exact .read covers ended (by simp [lexeme]) (by simp [lexeme])
  | cut codes notes after =>
    intro faultless
    simp at faultless
  | failed report notes after =>
    intro _
    exact .broken rfl covers (next.suffix (StringReading.suffix_of_failed reading))

theorem early_numeral {c : Char} {rest : Text} (clear : ending.Clear start.rest)
    (whole : start.rest = c :: rest) (plain : isPlain c = true)
    (first : c.isDigit = true ∨ fractionFirst (c :: rest) = true) :
    ending.Early ((numeral start).lexeme start newline notes) := by
  have covers := Ending.Covers.clear clear
  have reads := Numeral.reads_ofText first
  rw [← whole] at reads
  have ended : ending.Clear (numeral start).after.rest := by
    refine (Reads.behind plain reads).clear ?_
    rw [← whole]
    exact covers
  generalize kind : (Numeral.ofText start.rest).outcome = outcome
  cases outcome with
  | ok big =>
    refine .read covers ended ?_ ?_ <;> cases big <;> simp [lexeme, numeral, kind]
  | error fault =>
    have token : (numeral start).token = .broken ⟨fault, start.line⟩ := by simp [numeral, kind]
    exact .broken token covers (.clear ended)

theorem early_word {c : Char} {rest : Text} (clear : ending.Clear start.rest)
    (whole : start.rest = c :: rest) (first : c = '\\' ∨ Text.startsIdentifier c = true) :
    ending.Early ((word start).lexeme start newline notes) := by
  have covers := Ending.Covers.clear clear
  have plain : isPlain c = true := by
    rcases first with rfl | starts
    · decide
    · exact isPlain_of_startsIdentifier starts
  have stops : WordReading.Stops rest (c :: rest) (WordReading.ofText (c :: rest)) :=
    WordReading.stops_ofText first
  have covers_cons := covers
  rw [whole] at covers_cons
  rw [← whole] at stops
  rw [word]
  generalize WordReading.ofText start.rest = reading at stops
  cases stops with
  | word reads =>
    have ended := (Reads.behind plain reads).clear covers_cons
    dsimp only
    split
    · exact .broken rfl covers (.clear ended)
    · exact .read covers ended (by simp [lexeme]) fun _ _ _ => clear
  | malformed suffix => exact .broken rfl covers (covers.suffix suffix)

theorem early_mark {c : Char} (clear : ending.Clear start.rest) :
    ending.Early ((mark c start).lexeme start newline notes) := by
  have covers := Ending.Covers.clear clear
  rw [mark]
  cases found : Mark.ofText? start.rest with
  | none =>
    exact .broken rfl covers (covers.suffix (tail_suffix start))
  | some result =>
    obtain ⟨read, after⟩ := result
    rcases Mark.stops_ofText? found with ⟨rfl, comma⟩ | ⟨other, behind⟩
    · rw [comma] at covers
      have steps := covers.steps
      generalize behind : after = rest at steps
      cases steps with
      | clear ended =>
        subst behind
        refine .read (.clear clear) ended ?_ ?_ <;> simp [lexeme]
      | comma =>
        subst behind
        exact .comma rfl comma rfl
      | blank after =>
        exact absurd rfl (ne_of_isSpace (d := ',') (ending.blank_of_suffix after) (by decide))
      | opened quote => exact absurd quote (Ending.quote_ne (by decide) (by decide))
      | closed quote => exact absurd quote (Ending.quote_ne (by decide) (by decide))
    · refine .read covers (behind.clear covers) ?_ (by simp [lexeme])
      intro close
      obtain rfl : read = .parenClose := by simpa [lexeme] using close
      have whole : start.rest = [')'] ++ after := Mark.eq_of_ofText? found (by decide) (by decide)
      rw [whole] at clear
      exact Ending.within_of_close clear

theorem early_ofCursor (clear : ending.Clear start.rest) (faultless : (ofCursor start).notes = []) :
    ending.Early ((ofCursor start).lexeme start newline notes) := by
  revert faultless
  rw [ofCursor]
  split
  · rename_i whole
    intro _
    refine .read (.clear clear) ?_ ?_ ?_ <;> simp [lexeme, whole]
    exact .nil
  · rename_i c rest whole
    split
    · rename_i quotes
      rw [Bool.or_eq_true, decide_eq_true_eq, decide_eq_true_eq] at quotes
      exact early_string quotes clear whole
    intro _
    split
    · exact early_template (.clear clear)
    split
    · rename_i first
      rw [Bool.or_eq_true, whole] at first
      refine early_numeral clear whole ?_ first
      rcases first with digit | fraction
      · obtain ⟨d, hd⟩ := Numeral.digit_of_isDigit digit
        exact Digits.isPlain_of_digit hd
      · unfold fractionFirst at fraction
        split at fraction
        · rename_i same
          rw [(List.cons.inj same).1]
          decide
        · cases fraction
    split
    · rename_i first
      rw [Bool.or_eq_true, decide_eq_true_eq] at first
      exact early_word clear whole first
    · exact early_mark clear

end Cut

structure Solid (c : Char) : Prop where
  slash : c ≠ '/'
  less : c ≠ '<'
  minus : c ≠ '-'
  terminator : isLineTerminator c = false
  blank : isBlank c = false

namespace Gap

theorem skip_cons {c : Char} {rest : Text} {newline : Bool} {line : Nat} {notes : List Report}
    (slash : c ≠ '/') (less : c ≠ '<') (minus : c ≠ '-') :
    skip .blanks newline line notes (c :: rest) =
      if isLineTerminator c then skip .blanks true (Cursor.lineAfter c rest line) notes rest
      else if isBlank c then skip .blanks newline line notes rest
      else ⟨⟨c :: rest, line⟩, newline, notes⟩ := by
  rw [skip]
  all_goals simp [slash, less, minus]

theorem skip_solid {c : Char} (solid : Solid c) (newline : Bool) (line : Nat) (notes : List Report)
    (rest : Text) :
    skip .blanks newline line notes (c :: rest) = ⟨⟨c :: rest, line⟩, newline, notes⟩ := by
  rw [skip_cons solid.slash solid.less solid.minus, solid.terminator, solid.blank, if_neg nofun,
    if_neg nofun]

/-- Not every space is a blank of a script. -/
theorem skip_spaces {spaces : Text} {c : Char} (blank : ∀ d ∈ spaces, Text.isSpace d = true)
    (solid : Solid c) (tail : Text) (newline : Bool) (line : Nat) (notes : List Report) :
    ∃ rest newline' line', rest <:+ spaces ∧
      skip .blanks newline line notes (spaces ++ c :: tail) =
        ⟨⟨rest ++ c :: tail, line'⟩, newline', notes⟩ := by
  induction spaces generalizing newline line with
  | nil => exact ⟨[], newline, line, List.suffix_rfl, skip_solid solid newline line notes tail⟩
  | cons d spaces ih =>
    have space := blank d (by simp)
    have notMark : d ≠ '/' ∧ d ≠ '<' ∧ d ≠ '-' := by
      refine ⟨?_, ?_, ?_⟩ <;> exact ne_of_isSpace space (by decide)
    have shorter (newline : Bool) (line : Nat) :
        ∃ rest newline' line', rest <:+ d :: spaces ∧
          skip .blanks newline line notes (spaces ++ c :: tail) =
            ⟨⟨rest ++ c :: tail, line'⟩, newline', notes⟩ := by
      obtain ⟨rest, newline', line', suffix, skipped⟩ :=
        ih (fun e m => blank e (List.mem_cons_of_mem d m)) newline line
      exact ⟨rest, newline', line', suffix.trans (List.suffix_cons d spaces), skipped⟩
    rw [List.cons_append, skip_cons notMark.1 notMark.2.1 notMark.2.2]
    split
    · exact shorter ..
    · split
      · exact shorter ..
      · exact ⟨d :: spaces, newline, line, List.suffix_rfl, rfl⟩

end Gap

namespace Ending

variable {ending : Ending}

theorem early_next {cursor : Cursor} (clear : ending.Clear cursor.rest)
    (faultless : (Lexeme.next cursor).notes = []) : ending.Early (Lexeme.next cursor) := by
  obtain ⟨gapNotes, cutNotes⟩ := List.append_eq_nil_iff.1 faultless
  have skips : ending.Skips .blanks cursor.rest := clear
  exact Cut.early_ofCursor (clear_skip skips gapNotes) cutNotes

theorem solid_quote : Solid ending.quote := by
  rcases ending.quotes with q | q <;> rw [q] <;>
    exact ⟨by decide, by decide, by decide, by decide, by decide⟩

theorem skip_due {blanks : Text} (after : blanks <:+ ending.blanks) (newline : Bool) (line : Nat)
    (notes : List Report) :
    ∃ rest newline' line', rest <:+ ending.blanks ∧
      Gap.skip .blanks newline line notes (blanks ++ ending.literal) =
        ⟨⟨rest ++ ending.literal, line'⟩, newline', notes⟩ := by
  have spaces : ∀ c ∈ blanks, Text.isSpace c = true := fun c m => ending.blank c (after.subset m)
  obtain ⟨rest, newline', line', suffix, skip⟩ :=
    Gap.skip_spaces spaces solid_quote (ending.body ++ [ending.quote, ')']) newline line notes
  exact ⟨rest, newline', line', suffix.trans after, skip⟩

theorem cut_space {c : Char} (space : Text.isSpace c = true) (rest : Text) (line : Nat) :
    ∃ report, Cut.ofCursor ⟨c :: rest, line⟩ =
      ⟨.broken report, [], ⟨rest, Cursor.lineAfter c rest line⟩⟩ := by
  have notIdentifier : Text.startsIdentifier c = false := by
    rw [← Bool.not_eq_true]
    intro starts
    have plain := isPlain_of_startsIdentifier starts
    exact absurd rfl (ne_of_isSpace space (isPlain_iff.1 plain).2.2.2)
  have notDigit : c.isDigit = false := by
    rw [← Bool.not_eq_true]
    intro digit
    obtain ⟨d, hd⟩ := Numeral.digit_of_isDigit digit
    have plain := Digits.isPlain_of_digit hd
    exact absurd rfl (ne_of_isSpace space (isPlain_iff.1 plain).2.2.2)
  have others : c ≠ '\'' ∧ c ≠ '"' ∧ c ≠ '\x60' ∧ c ≠ '.' ∧ c ≠ '\\' := by
    refine ⟨?_, ?_, ?_, ?_, ?_⟩ <;> exact ne_of_isSpace space (by decide)
  obtain ⟨single, double, template, dot, backslash⟩ := others
  have notTemplate : c.toNat ≠ 0x60 := fun same => template (Char.toNat_inj.1 same)
  have noMark : Mark.ofText? (c :: rest) = none := by
    cases found : Mark.ofText? (c :: rest) with
    | none => rfl
    | some result =>
      rcases Mark.first_of_ofText? found with comma | plain
      · exact absurd comma (ne_of_isSpace space (by decide))
      · exact absurd rfl (ne_of_isSpace space (isPlain_iff.1 plain).2.2.2)
  refine ⟨⟨.unexpectedCharacter (Text.quoteChar c), line⟩, ?_⟩
  simp [Cut.ofCursor, Cut.mark, Cut.fractionFirst, single, double, notTemplate, notDigit, dot,
    backslash, notIdentifier, noMark, Cursor.advance]

theorem next_due {blanks : Text} (after : blanks <:+ ending.blanks) {cursor : Cursor}
    (due : cursor.rest = blanks ++ ending.literal) (faultless : (Lexeme.next cursor).notes = []) :
    ((Lexeme.next cursor).token = .string (some ending.body) ∧
        ending.Late (Lexeme.next cursor)) ∨
      ∃ report, (Lexeme.next cursor).token = .broken report ∧ ending.Early (Lexeme.next cursor) := by
  obtain ⟨rest, newline, line, after', skip⟩ := skip_due after false cursor.line []
  rw [Lexeme.next, due, skip, Lexeme.afterGap] at faultless ⊢
  cases rest with
  | nil =>
    dsimp only [List.nil_append] at faultless ⊢
    obtain ⟨line', cut⟩ :=
      Cut.ofCursor_plain ending.quotes ending.unquoted ending.unescaped faultless
    rw [literal, cut]
    exact .inl ⟨rfl, .literal rfl rfl rfl⟩
  | cons c rest =>
    obtain ⟨report, cut⟩ :=
      cut_space (ending.blank_of_suffix after') (rest ++ ending.literal) line
    dsimp only [List.cons_append]
    rw [cut]
    refine .inr ⟨report, rfl, .broken rfl ?_ ?_⟩
    · exact .due after'
    · exact .due ((List.suffix_cons c rest).trans after')

theorem next_close {cursor : Cursor} (close : cursor.rest = [')']) :
    (Lexeme.next cursor).token = .mark .parenClose ∧ ending.Late (Lexeme.next cursor) := by
  have next : Lexeme.next cursor =
      ⟨.mark .parenClose, ⟨[')'], cursor.line⟩, false, [], ⟨[], cursor.line⟩⟩ := by
    rw [Lexeme.next, close]
    rfl
  rw [next]
  exact ⟨rfl, .close rfl rfl rfl⟩

theorem stands_next {cursor : Cursor} (covers : ending.Covers cursor.rest)
    (faultless : (Lexeme.next cursor).notes = []) : ending.Stands (Lexeme.next cursor) := by
  generalize ht : cursor.rest = text at covers
  cases covers with
  | clear clear =>
    rw [← ht] at clear
    exact .early (early_next clear faultless)
  | due after =>
    rcases next_due after ht faultless with ⟨-, late⟩ | ⟨-, -, early⟩
    · exact .late late
    · exact .early early
  | close => exact .late (next_close ht).2

end Ending

end MessageHarvest.Script
