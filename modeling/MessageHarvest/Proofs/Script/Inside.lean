import MessageHarvest.Proofs.Script.ArgumentList

/-!
From a place inside the literal on, a source does not come to its end without a fault, unless a line
comment begins there: the delimiter that closes the literal opens one there.
-/

namespace MessageHarvest.Script

namespace Ending

variable {ending : Ending}

def leave (ending : Ending) {rest : Text} (left : rest <:+ ending.body) : Ending :=
  { ending with
    body := rest
    unquoted := fun m => ending.unquoted (left.subset m)
    unescaped := fun m => ending.unescaped (left.subset m) }

/-- Behind a closing parenthesis inside the literal, what is left of it is the body of another one. -/
theorem Within.leave {text : Text} (h : ending.Within text) :
    ∃ left : Ending, ')' :: left.body <:+ ending.body ∧ left.Inside text := by
  obtain ⟨rest, suffix, whole⟩ := h
  have left : rest <:+ ending.body := (List.suffix_cons ')' rest).trans suffix
  exact ⟨ending.leave left, suffix, rest, List.suffix_rfl, whole⟩

theorem Inside.tail {c : Char} {rest : Text} (h : ending.Inside (c :: rest)) (quote : c ≠ ending.quote) :
    ending.Inside rest := by
  obtain ⟨inner, suffix, whole⟩ := h
  cases inner with
  | nil => exact absurd (List.cons.inj whole).1 quote
  | cons d inner =>
    obtain ⟨-, rfl⟩ := List.cons.inj whole
    exact ⟨inner, (List.suffix_cons d inner).trans suffix, rfl⟩

theorem Inside.suffix {text : Text} (h : ending.Inside text) :
    text <:+ ending.body ++ [ending.quote, ')'] := by
  obtain ⟨inner, ⟨front, whole⟩, rfl⟩ := h
  exact ⟨front, by rw [← whole, List.append_assoc]⟩

theorem Inside.ne_nil {text : Text} (h : ending.Inside text) : text ≠ [] := by
  obtain ⟨inner, -, rfl⟩ := h
  simp

def Lingers (ending : Ending) : Skipping → Text → Prop
  | .blanks, text => ending.Inside text
  | .lineComment, _ => False
  | .blockComment, text => text <:+ ending.body ++ [ending.quote, ')']

theorem inside_skip (uncommented : ¬ ['/', '/'] <:+: ending.body) {mode : Skipping} {newline : Bool}
    {line : Nat} {notes : List Report} {text : Text} (h : ending.Lingers mode text)
    (faultless : (Gap.skip mode newline line notes text).notes = []) :
    ending.Inside (Gap.skip mode newline line notes text).start.rest := by
  fun_induction Gap.skip mode newline line notes text
  case case1 rest ih =>
    -- both slashes of the line comment would stand in the literal
    obtain ⟨inner, suffix, whole⟩ := h
    have slash : '/' ≠ ending.quote := quote_ne (by decide) (by decide)
    cases inner with
    | nil => exact absurd (List.cons.inj whole).1 slash
    | cons c inner =>
      obtain ⟨rfl, behind⟩ := List.cons.inj whole
      cases inner with
      | nil => exact absurd (List.cons.inj behind).1 slash
      | cons d inner =>
        obtain ⟨rfl, -⟩ := List.cons.inj behind
        have comment : ['/', '/'] <+: '/' :: '/' :: inner := ⟨inner, rfl⟩
        exact absurd (comment.isInfix.trans suffix.isInfix) uncommented
  case case2 rest ih =>
    have begins : '/' :: '*' :: rest <:+ ending.body ++ [ending.quote, ')'] := Inside.suffix h
    exact ih (((List.suffix_cons ..).trans (List.suffix_cons ..)).trans begins) faultless
  -- a comment that modules may not hold has been noted
  case case3 => exact absurd faultless Gap.notes_skip_append_ne_nil
  case case4 => exact absurd faultless Gap.notes_skip_append_ne_nil
  case case5 terminator ih =>
    obtain ⟨-, single, double⟩ := parts_of_isLineTerminator terminator
    exact ih (Inside.tail h (quote_ne single double)) faultless
  case case6 blank ih =>
    obtain ⟨-, single, double⟩ := parts_of_isBlank blank
    exact ih (Inside.tail h (quote_ne single double)) faultless
  case case7 => exact h
  case case8 => exact h.elim
  case case9 => exact h.elim
  case case10 rest ih =>
    have ends : '/' :: rest <:+ ending.body ++ [ending.quote, ')'] := (List.suffix_cons ..).trans h
    exact ih (inside_of_suffix ends (quote_ne (by decide) (by decide)) (by decide)) faultless
  case case11 ih => exact ih ((List.suffix_cons ..).trans h) faultless
  case case12 => simp at faultless
  case case13 mode newline line notes open' =>
    cases mode with
    | blanks => exact absurd rfl (Inside.ne_nil h)
    | lineComment => exact h.elim
    | blockComment => exact absurd rfl open'

end Ending

namespace Cut

def Valued (token : Token) : Prop := token ≠ .finish ∧ ∀ mark, token ≠ .mark mark

theorem valued_string (delimiter : Char) (start : Cursor) : Valued (string delimiter start).token := by
  unfold string
  split <;> exact ⟨nofun, nofun⟩

theorem valued_template (start : Cursor) : Valued (template start).token := by
  unfold template
  split <;> exact ⟨nofun, nofun⟩

theorem valued_numeral (start : Cursor) : Valued (numeral start).token := by
  unfold numeral
  dsimp only
  split <;> exact ⟨nofun, nofun⟩

theorem valued_word (start : Cursor) : Valued (word start).token := by
  unfold word
  split
  · split <;> exact ⟨nofun, nofun⟩
  · exact ⟨nofun, nofun⟩

theorem mark_cases (c : Char) (start : Cursor) :
    Valued (mark c start).token ∨
      ∃ mark', (mark c start).token = .mark mark' ∧
        Mark.ofText? start.rest = some (mark', (mark c start).after.rest) := by
  unfold mark
  split
  · rename_i mark rest found
    exact .inr ⟨mark, rfl, found⟩
  · exact .inl ⟨nofun, nofun⟩

theorem ofCursor_cases (start : Cursor) :
    start.rest = [] ∨ Valued (ofCursor start).token ∨
      ∃ mark, (ofCursor start).token = .mark mark ∧
        Mark.ofText? start.rest = some (mark, (ofCursor start).after.rest) := by
  unfold ofCursor
  split
  · rename_i whole
    exact .inl whole
  · refine .inr ?_
    split
    · exact .inl (valued_string ..)
    split
    · exact .inl (valued_template start)
    split
    · exact .inl (valued_numeral start)
    split
    · exact .inl (valued_word start)
    · exact mark_cases ..

theorem rest_of_finish {start : Cursor} (h : (ofCursor start).token = .finish) : start.rest = [] := by
  rcases ofCursor_cases start with nothing | valued | ⟨mark, token, -⟩
  · exact nothing
  · exact absurd h valued.1
  · rw [h] at token
    cases token

theorem rest_of_semicolon {start : Cursor} (h : (ofCursor start).token = .mark .semicolon) :
    start.rest = ';' :: (ofCursor start).after.rest := by
  rcases ofCursor_cases start with nothing | valued | ⟨mark, token, found⟩
  · unfold ofCursor at h
    rw [nothing] at h
    cases h
  · exact absurd h (valued.2 .semicolon)
  · rw [h] at token
    cases token
    have whole : start.rest = [';'] ++ (ofCursor start).after.rest :=
      Mark.eq_of_ofText? found (by decide) (by decide)
    exact whole

end Cut

namespace Ending

variable {ending : Ending}

theorem inside_next (uncommented : ¬ ['/', '/'] <:+: ending.body) {cursor : Cursor}
    (inside : ending.Inside cursor.rest) (faultless : (Lexeme.next cursor).notes = []) :
    ending.Inside (Lexeme.next cursor).start.rest := by
  obtain ⟨skipped, -⟩ := List.append_eq_nil_iff.1 faultless
  have lingers : ending.Lingers .blanks cursor.rest := inside
  exact inside_skip uncommented lingers skipped

theorem not_finish_of_inside (uncommented : ¬ ['/', '/'] <:+: ending.body) {cursor : Cursor}
    (inside : ending.Inside cursor.rest) (faultless : (Lexeme.next cursor).notes = []) :
    (Lexeme.next cursor).token ≠ .finish := by
  intro finish
  exact (inside_next uncommented inside faultless).ne_nil (Cut.rest_of_finish finish)

theorem not_ends_of_inside (uncommented : ¬ ['/', '/'] <:+: ending.body) {cursor : Cursor}
    (inside : ending.Inside cursor.rest) (faultless : (Lexeme.next cursor).notes = []) :
    ¬ Parse.Ends (Lexeme.next cursor) := by
  rintro (finish | ⟨semicolon, finish, faultless'⟩)
  · exact not_finish_of_inside uncommented inside faultless finish
  · have begins := inside_next uncommented inside faultless
    have whole : (Lexeme.next cursor).start.rest = ';' :: (Lexeme.next cursor).after.rest :=
      Cut.rest_of_semicolon semicolon
    have notQuote : ';' ≠ ending.quote := quote_ne (by decide) (by decide)
    have behind : ending.Inside (Lexeme.next cursor).after.rest := by
      rw [whole] at begins
      exact begins.tail notQuote
    exact not_finish_of_inside uncommented behind faultless' finish

end Ending

/-- Unless a line comment gets in the way, the last argument is the literal, and others stand between it
and the first argument. -/
theorem Remaining.literal {ending : Ending} {source front : Text} {others : List Node}
    {start stop : State} {place : Cursor} (remaining : Remaining source others start stop)
    (whole : place.rest = front ++ ending.text) (clean : (Lexeme.next place).notes = [])
    (first : start.current = Lexeme.next place) (unclosed : ')' ∉ front)
    (shown : ending.Shown front)
    (uncommented : ∀ rest, ')' :: rest <:+ ending.body → ¬ ['/', '/'] <:+: rest) :
    ∃ items line, items ≠ [] ∧ others = items ++ [.string line (some ending.body)] := by
  obtain ⟨scope, k, collected⟩ := remaining.collected
  have clear : ending.Clear place.rest := by
    rw [whole]
    exact .ahead unclosed shown
  have early : ending.Early start.current := by
    rw [first]
    exact Ending.early_next clear clean
  cases Ending.collectUpTo_early early collected remaining.faultless with
  | @literal items line _ some => exact ⟨items, line, some, rfl⟩
  | within token within =>
    obtain ⟨left, behind, inside⟩ := within.leave
    have stays := Ending.not_ends_of_inside (uncommented left.body behind) inside remaining.clean
    exact absurd remaining.ends stays

theorem Remaining.nothing {source : Text} {others : List Node} {start stop : State}
    (remaining : Remaining source others start stop)
    (close : start.current.token = .mark .parenClose) : others = [] := by
  obtain ⟨scope, k, collected⟩ := remaining.collected
  exact (Ending.collectUpTo_close close collected).1

end MessageHarvest.Script
