import MessageHarvest.Proofs.Script.Standing

namespace MessageHarvest.Script

theorem markupQuote?_append {delimiter : Char} {body : Text} (unquoted : delimiter ∉ body)
    (rest : Text) (line : Nat) :
    ∃ line', markupQuote? delimiter (body ++ delimiter :: rest) line = some ⟨rest, line'⟩ := by
  induction body generalizing line with
  | nil => exact ⟨line, by simp [markupQuote?]⟩
  | cons c body ih =>
    rw [List.mem_cons, not_or] at unquoted
    have other : c ≠ delimiter := fun same => unquoted.1 same.symm
    obtain ⟨line', found⟩ := ih unquoted.2 (Cursor.lineAfter c (body ++ delimiter :: rest) line)
    refine ⟨line', ?_⟩
    rw [List.cons_append, markupQuote?, if_neg other]
    exact found

namespace Ending

variable {ending : Ending}

theorem early_markupLexeme {start : Cursor} (covers : ending.Covers start.rest) :
    ending.Early (markupLexeme start) := by
  unfold markupLexeme
  split
  · rename_i whole
    refine .read covers ?_ (by simp) (by simp)
    rw [whole]
    exact .nil
  · rename_i rest whole
    refine .read covers ?_ (by simp) (by simp)
    rw [whole] at covers
    rw [Cursor.advanceBy_rest, whole]
    exact covers.tail.clear_of_plain (by decide)
  · rename_i rest _ whole
    refine .read covers ?_ (by simp) (by simp)
    rw [whole] at covers
    rw [Cursor.advance_rest, whole]
    exact covers.clear_of_plain (by decide)
  · rename_i rest whole
    refine .read covers ?_ (by simp) (by simp)
    rw [whole] at covers
    rw [Cursor.advance_rest, whole]
    exact covers.clear_of_plain (by decide)
  · obtain ⟨suffix, opens⟩ := markupRun_stops start.rest start.line []
    generalize markupRun start.rest start.line [] = run at suffix opens
    obtain ⟨after, notes⟩ := run
    refine .read covers ?_ (by simp) (by simp)
    have ended := covers.suffix suffix
    generalize after.rest = text at opens ended
    cases text with
    | nil => exact .nil
    | cons c rest =>
      refine clear_of_head ended ?_ ?_ <;> rcases opens c rest rfl with rfl | rfl <;> decide

theorem early_markupValue {cursor : Cursor} (clear : ending.Clear cursor.rest)
    (faultless : (markupValue cursor).notes = []) : ending.Early (markupValue cursor) := by
  have skips : ending.Skips .blanks cursor.rest := clear
  have skipped : ∀ gap, Gap.skip .blanks false cursor.line [] cursor.rest = gap →
      gap.notes = [] → ending.Clear gap.start.rest := by
    rintro gap rfl
    exact clear_skip skips
  revert faultless
  unfold markupValue
  generalize Gap.skip .blanks false cursor.line [] cursor.rest = gap at skipped
  have skipped := skipped gap rfl
  dsimp only
  split
  · rename_i c rest whole
    split
    · rename_i quotes
      rw [Bool.or_eq_true, decide_eq_true_eq, decide_eq_true_eq] at quotes
      split
      · rename_i after found
        intro faultless
        have start := skipped faultless
        have tail : gap.start.advance.rest = rest := by rw [Cursor.advance_rest, whole]; rfl
        rw [tail] at found
        refine .read (.clear start) ?_ (by simp) (by simp)
        rw [whole] at start
        exact clear_of_markupQuote quotes (Covers.clear start).tail start.unentered found
      · intro faultless
        exact .broken rfl (.clear (skipped faultless)) (.clear .nil)
    · exact early_next clear
  · exact early_next clear

theorem late_markupValue {cursor : Cursor} {blanks : Text} (after : blanks <:+ ending.blanks)
    (due : cursor.rest = blanks ++ ending.literal) (faultless : (markupValue cursor).notes = []) :
    ending.Stands (markupValue cursor) := by
  have covers : ending.Covers cursor.rest := by rw [due]; exact .due after
  obtain ⟨rest, newline, line, after', skip⟩ := skip_due after false cursor.line []
  rw [← due] at skip
  revert faultless
  unfold markupValue
  rw [skip]
  cases rest with
  | nil =>
    obtain ⟨line', found⟩ := markupQuote?_append ending.unquoted [')'] line
    have quotes : (ending.quote = '\'' || ending.quote = '"') = true := by
      rcases ending.quotes with q | q <;> simp [q]
    simp only [List.nil_append, literal, quotes, if_true, Cursor.advance, found]
    intro _
    exact .late (.literal rfl rfl rfl)
  | cons c rest =>
    have space := ending.blank_of_suffix after'
    have single : c ≠ '\'' := ne_of_isSpace space (by decide)
    have double : c ≠ '"' := ne_of_isSpace space (by decide)
    simpa [single, double] using stands_next covers

theorem stands_markupValue {cursor : Cursor} (covers : ending.Covers cursor.rest)
    (faultless : (markupValue cursor).notes = []) : ending.Stands (markupValue cursor) := by
  generalize ht : cursor.rest = text at covers
  cases covers with
  | clear clear =>
    rw [← ht] at clear
    exact .early (early_markupValue clear faultless)
  | due after => exact late_markupValue after ht faultless
  | close =>
    have next : markupValue cursor = Lexeme.next cursor := by
      unfold markupValue
      rw [ht]
      rfl
    rw [next]
    exact .late (next_close ht).2

theorem early_templateChunk {lexeme : Lexeme} (covers : ending.Covers lexeme.start.rest) :
    ending.Early lexeme.templateChunk :=
  Cut.early_template covers

theorem early_firstGreater {lexeme : Lexeme} (covers : ending.Covers lexeme.start.rest)
    (greater : lexeme.start.rest.head? = some '>') : ending.Early lexeme.firstGreater := by
  refine .read covers ?_ (by simp [Lexeme.firstGreater]) (by simp [Lexeme.firstGreater])
  obtain ⟨rest, whole⟩ := List.head?_eq_some_iff.1 greater
  change ending.Clear lexeme.start.advance.rest
  rw [whole] at covers
  rw [Cursor.advance_rest, whole]
  exact covers.clear_of_plain (by decide)

theorem covers_afterRegexp {start : Cursor} (covers : ending.Covers start.rest) :
    ending.Covers (RegexpReading.ofCursor start).after.rest := by
  have stops := RegexpReading.stops_ofCursor start
  generalize RegexpReading.ofCursor start = reading at stops
  cases stops with
  | literal behind => exact .clear (behind.clear covers)
  | broken suffix => exact covers.suffix suffix

theorem early_afterRegexp {lexeme : Lexeme} {notes : List Report} {after : Cursor}
    (covers : ending.Covers lexeme.start.rest)
    (literal : RegexpReading.ofCursor lexeme.start = .literal notes after)
    (faultless : lexeme.afterRegexp.notes = []) : ending.Early lexeme.afterRegexp := by
  have stops := RegexpReading.stops_ofCursor lexeme.start
  refine early_next ?_ faultless
  rw [literal] at stops ⊢
  cases stops with
  | literal behind => exact behind.clear covers

theorem stands_follows {lexeme next : Lexeme} (stands : ending.Stands lexeme)
    (follows : lexeme.Follows next) (faultless : next.notes = []) : ending.Stands next := by
  obtain ⟨start, after⟩ := stands.covers
  cases follows with
  | next => exact stands_next after faultless
  | afterRegexp => exact stands_next (covers_afterRegexp start) faultless
  | brokenRegexp report => exact .early (.broken rfl start (covers_afterRegexp start))
  | templateChunk => exact .early (early_templateChunk start)
  | firstGreater _ greater => exact .early (early_firstGreater start greater)
  | markup => exact .early (early_markupLexeme after)
  | markupWord =>
    exact stands_next (start.suffix (reads_markupWord lexeme.start.rest).suffix) faultless
  | markupValue => exact stands_markupValue after faultless

end Ending

namespace State.Reaches

variable {ending : Ending} {start state : State}

theorem faultless_start (h : start.Reaches state) (faultless : state.notes = []) :
    start.notes = [] := by
  induction h with
  | refl => exact faultless
  | record => cases faultless
  | replace _ _ ih => exact ih (List.append_eq_nil_iff.1 faultless).2
  | enter _ _ ih => exact ih (List.append_eq_nil_iff.1 faultless).2

theorem stands (h : start.Reaches state) (first : ending.Stands start.current)
    (faultless : state.notes = []) : ending.Stands state.current := by
  induction h with
  | refl => exact first
  | record => cases faultless
  | replace _ follows ih =>
    obtain ⟨here, before⟩ := List.append_eq_nil_iff.1 faultless
    exact Ending.stands_follows (ih before) follows (List.reverse_eq_nil_iff.1 here)
  | enter _ follows ih =>
    obtain ⟨here, before⟩ := List.append_eq_nil_iff.1 faultless
    exact Ending.stands_follows (ih before) follows (List.reverse_eq_nil_iff.1 here)

end State.Reaches

end MessageHarvest.Script
