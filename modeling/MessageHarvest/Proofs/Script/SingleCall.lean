import MessageHarvest.Proofs.Script.Callee
import MessageHarvest.Script.Module

namespace MessageHarvest.Script

namespace Parse

variable {α : Type} {scope : Scope} {start state : State} {grammar : Grammar}

theorem run_collectUpTo_nil {step : Parse (Option α)} {n : Nat}
    (done : (collectUpTo step n).run scope start = .done [] state) :
    step.run scope start = .done none state := by
  cases n with
  | zero => cases done
  | succ n =>
    obtain ⟨found, middle, ran, rest⟩ := run_bind done
    cases found with
    | none =>
      cases rest
      exact ran
    | some value =>
      obtain ⟨values, reached, -, last⟩ := run_bind rest
      cases last

theorem run_collectUpTo_cons {step : Parse (Option α)} {n : Nat} {value : α} {values : List α}
    (done : (collectUpTo step n).run scope start = .done (value :: values) state) :
    ∃ m middle, step.run scope start = .done (some value) middle ∧
      (collectUpTo step m).run scope middle = .done values state := by
  cases n with
  | zero => cases done
  | succ n =>
    obtain ⟨found, middle, ran, rest⟩ := run_bind done
    cases found with
    | none => cases rest
    | some found =>
      obtain ⟨others, reached, collected, last⟩ := run_bind rest
      cases last
      exact ⟨n, middle, ran, collected⟩

theorem run_expression {value : Node}
    (done : (expression grammar).run scope start = .done value state) :
    value.isWide = true ∨ (assignment grammar).run scope start = .done value state := by
  obtain ⟨node, middle, ran, done⟩ := run_bind done
  obtain ⟨others, reached, collected, done⟩ := run_bind done
  cases others with
  | cons other others =>
    cases done
    exact .inl rfl
  | nil =>
    have step := run_collectUpTo_nil (n := scope.budget) collected
    cases done
    obtain ⟨eaten, reached, ate, rest⟩ := run_bind step
    rcases run_eat ate with ⟨rfl, rfl⟩ | ⟨rfl, -⟩
    · rw [if_neg nofun] at rest
      cases rest
      exact .inr ran
    · rw [if_pos rfl] at rest
      obtain ⟨_, _, -, last⟩ := run_bind rest
      cases last

section Statements

variable {text : Text}

theorem run_letFollowed (scope : Scope) (start : State) :
    ∃ follows, letFollowed.run scope start = .done follows start := by
  unfold letFollowed
  rw [run_peek]
  split <;> exact ⟨_, rfl⟩

theorem run_wordStatement? (reference : Word.isReference text = true) (declarations : Bool) :
    (wordStatement? grammar declarations text).run scope start = .done none start := by
  have other (word : Text) (reserved : Word.isReference word = false) : text ≠ word :=
    ne_of_reserved reference reserved
  have no (word : Text) (reserved : Word.isReference word = false) : decide (text = word) = false :=
    decide_eq_false (other word reserved)
  obtain ⟨follows, looked⟩ := run_letFollowed scope start
  unfold wordStatement?
  rw [run_line, if_neg (other _ (by decide)), if_neg (other _ (by decide)),
    if_neg (other _ (by decide)), if_neg (other _ (by decide)), if_neg (other _ (by decide)),
    if_neg (other _ (by decide)), if_neg (other _ (by decide)), if_neg (other _ (by decide)),
    if_neg (other _ (by decide)), if_neg (other _ (by decide)), if_neg (other _ (by decide)),
    no _ (by decide), no _ (by decide), if_neg nofun, if_neg (other _ (by decide)),
    if_neg (other _ (by decide)), if_neg (other _ (by decide)), if_neg (other _ (by decide)),
    no _ (by decide), Bool.false_and, if_neg nofun, run_bind_of_done looked, no _ (by decide),
    Bool.false_and, Bool.false_and, if_neg nofun, if_neg (other _ (by decide))]
  rfl

theorem run_atModuleWord (next : Bool → Parse α) (plain : start.current.token.Plain) :
    (atModuleWord >>= next).run scope start = (next false).run scope start := by
  refine run_bind_of_done ?_
  unfold atModuleWord
  rw [run_atWord_reserved (by decide) _ plain, if_neg nofun,
    run_atWord_reserved (by decide) _ plain, if_neg nofun]
  rfl

theorem run_managedFollows (next : Bool → Parse α)
    (dot : (Lexeme.next start.current.after).token = .mark .dot) :
    (managedFollows >>= next).run scope start = (next false).run scope start := by
  refine run_bind_of_done ?_
  have unmanaged : managedWord start.current = false := by
    unfold managedWord
    dsimp only
    rw [dot]
    split <;> rfl
  change Reply.done (managedWord start.current) start = _
  rw [unmanaged]

theorem run_awaitedManagedFollows (next : Bool → Parse α) (plain : start.current.token.Plain) :
    (awaitedManagedFollows >>= next).run scope start = (next false).run scope start := by
  refine run_bind_of_done ?_
  unfold awaitedManagedFollows
  rw [run_atWord_reserved (by decide) _ plain, if_neg nofun]
  rfl

theorem run_statement (reference : Word.isReference text = true)
    (here : start.current.token = .word text false)
    (dot : (Lexeme.next start.current.after).token = .mark .dot) (declarations : Bool) :
    (statement grammar declarations).run scope start =
      (expressionStatement grammar).run scope start := by
  have plain : start.current.token.Plain := by
    rw [here]
    exact .word reference
  unfold statement
  rw [run_atModuleWord _ plain, if_neg nofun, run_token, here]
  dsimp only
  rw [run_bind_of_done (run_wordStatement? reference declarations)]
  dsimp only
  rw [run_asyncFunctionFollows _ dot, if_neg nofun, run_managedFollows _ dot, Bool.and_false,
    if_neg nofun, run_awaitedManagedFollows _ plain, Bool.and_false, if_neg nofun]

theorem run_endExpressionStatement {node value : Node}
    (done : (endExpressionStatement grammar node).run scope start = .done value state)
    (faultless : state.notes = []) :
    value = node ∧ eatStatementEnd.run scope start = .done true state := by
  obtain ⟨ended, middle, ate, done⟩ := run_bind done
  cases ended with
  | true =>
    cases done
    exact ⟨rfl, ate⟩
  | false =>
    rw [if_neg nofun] at done
    obtain ⟨found, reached, -, done⟩ := run_bind done
    cases found with
    | none => cases done
    | some found => exact absurd faultless (Faulty.notes scope reached value state done)

theorem isWide_labelledStatement {line : Nat} {label : Text} {value : Node}
    (done : (labelledStatement grammar line label).run scope start = .done value state) :
    value.isWide = true := by
  unfold labelledStatement at done
  rw [run_scope] at done
  dsimp only at done
  rw [run_line] at done
  obtain ⟨body, middle, -, done⟩ := run_bind done
  split at done
  · obtain ⟨_, _, -, done⟩ := run_bind done
    cases done
    rfl
  · cases done
    rfl

theorem run_expressionStatement {value : Node}
    (done : (expressionStatement grammar).run scope start = .done value state)
    (faultless : state.notes = []) :
    value.isWide = true ∨ ∃ middle, (withIn (expression grammar)).run scope start = .done value middle ∧
      eatStatementEnd.run scope middle = .done true state := by
  obtain ⟨node, middle, ran, done⟩ := run_bind done
  split at done
  · obtain ⟨labels, reached, ate, rest⟩ := run_bind done
    rcases run_eat ate with ⟨rfl, rfl⟩ | ⟨rfl, -⟩
    · rw [if_neg Bool.false_ne_true] at rest
      obtain ⟨rfl, ended⟩ := run_endExpressionStatement rest faultless
      exact .inr ⟨_, ran, ended⟩
    · rw [if_pos rfl] at rest
      exact .inl (isWide_labelledStatement rest)
  · obtain ⟨rfl, ended⟩ := run_endExpressionStatement done faultless
    exact .inr ⟨_, ran, ended⟩

theorem run_moduleItem {found : Option Node} (reference : Word.isReference text = true)
    (here : start.current.token = .word text false)
    (dot : (Lexeme.next start.current.after).token = .mark .dot)
    (done : (moduleItem grammar).run scope start = .done found state) :
    ∃ value, found = some value ∧
      (expressionStatement grammar).run scope start = .done value state := by
  have plain : start.current.token.Plain := by
    rw [here]
    exact .word reference
  have more : ∀ next : Bool → Parse (Option Node),
      (atEnd >>= next).run scope start = (next false).run scope start := by
    intro next
    refine run_bind_of_done ?_
    change Reply.done (decide (start.current.token = .finish)) start = _
    rw [here]
    rfl
  unfold moduleItem at done
  rw [more, if_neg nofun, run_atWord_reserved (by decide) _ plain, if_neg nofun,
    run_atModuleWord _ plain, if_neg nofun] at done
  obtain ⟨value, rfl, ran⟩ := run_some done
  rw [run_statement reference here dot] at ran
  exact ⟨value, rfl, ran⟩

theorem moduleItem_none (done : (moduleItem grammar).run scope start = .done none state) :
    start.current.token = .finish := by
  obtain ⟨ended, middle, looked, rest⟩ := run_bind done
  cases looked
  split at rest
  · rename_i finished
    simpa using finished
  · obtain ⟨exports, middle, -, rest⟩ := run_bind rest
    split at rest
    · obtain ⟨value, some, -⟩ := run_some rest
      cases some
    · obtain ⟨imports, middle, -, rest⟩ := run_bind rest
      split at rest
      · obtain ⟨value, some, -⟩ := run_some rest
        cases some
      · obtain ⟨value, some, -⟩ := run_some rest
        cases some

end Statements

def Ends (lexeme : Lexeme) : Prop :=
  lexeme.token = .finish ∨
    (lexeme.token = .mark .semicolon ∧ (Lexeme.next lexeme.after).token = .finish ∧
      (Lexeme.next lexeme.after).notes = [])

theorem run_atStatementEnd (scope : Scope) (start : State) :
    ∃ ends, atStatementEnd.run scope start = .done ends start := by
  unfold atStatementEnd
  rw [run_token]
  split <;> exact ⟨_, rfl⟩

theorem ends_of_eatStatementEnd (done : eatStatementEnd.run scope start = .done true state)
    (finished : state.current.token = .finish) (faultless : state.notes = []) :
    Ends start.current := by
  obtain ⟨eaten, middle, ate, rest⟩ := run_bind done
  rcases run_eat ate with ⟨rfl, rfl⟩ | ⟨rfl, semicolon, rfl⟩
  · rw [if_neg nofun] at rest
    obtain ⟨ends, looked⟩ := run_atStatementEnd scope middle
    rw [looked] at rest
    cases rest
    exact .inl finished
  · rw [if_pos rfl] at rest
    cases rest
    obtain ⟨notes, -⟩ := List.append_eq_nil_iff.1 faultless
    exact .inr ⟨semicolon, finished, List.reverse_eq_nil_iff.1 notes⟩

end Parse

theorem parseModule_single {source : Text} {node : Node}
    (parsed : parseModule source = .ok (.moduleBody 1 [node])) :
    ∃ first last,
      (Parse.moduleItem (Grammar.level (source.length + 2))).run (Scope.ofModule (source.length + 2))
        (State.ofSource source) = .done (some node) first ∧
      (Parse.moduleItem (Grammar.level (source.length + 2))).run (Scope.ofModule (source.length + 2))
        first = .done none last ∧ last.notes = [] := by
  unfold parseModule at parsed
  dsimp only at parsed
  split at parsed
  · cases parsed
  · rename_i nodes last ran
    split at parsed
    · cases parsed
    · rename_i faultless
      cases parsed
      obtain ⟨n, first, item, rest⟩ := Parse.run_collectUpTo_cons (n := source.length + 2) ran
      exact ⟨first, last, item, Parse.run_collectUpTo_nil rest, List.getLast?_eq_none_iff.1 faultless⟩

/-- Where a module is a single call that begins with a property of a name, its arguments are what the
argument list of that property holds, unless an access or a call follows that list. -/
theorem arguments_of_single {source object method : Text} {opening : Lexeme} {node : Node}
    (parsed : parseModule source = .ok (.moduleBody 1 [node]))
    (begins : Parse.Begins object method (Lexeme.first source) opening)
    (narrow : node.isWide = false) :
    ∃ scope before after items, before.current = opening ∧
      (Parse.arguments (Grammar.level (source.length + 2))).run scope before = .done items after ∧
      after.notes = [] ∧
      ((node = Parse.callOfProperty object method (Lexeme.first source).start.line items ∧
          Parse.Ends after.current) ∨
        ∃ inner, Parse.isHigh inner = true ∧ Parse.Extends inner node) := by
  obtain ⟨first, last, item, none, faultless⟩ := parseModule_single parsed
  have faultless₁ := (Parse.reaches_of_done none).faultless_start faultless
  obtain ⟨value, same, ran⟩ := Parse.run_moduleItem begins.reference begins.name begins.dot item
  cases same
  have finished := Parse.moduleItem_none none
  rcases Parse.run_expressionStatement ran faultless₁ with wide | ⟨middle, ran, ended⟩
  · rw [narrow] at wide
    cases wide
  have ends := Parse.ends_of_eatStatementEnd ended finished faultless₁
  have faultless₂ := (Parse.reaches_of_done ended).faultless_start faultless₁
  rcases Parse.run_expression ran with wide | ran
  · rw [narrow] at wide
    cases wide
  have plain : (State.ofSource source).current.token.Plain := by
    change (Lexeme.first source).token.Plain
    rw [begins.name]
    exact .word begins.reference
  obtain ⟨inner, reached, operand, faultless₃, carries⟩ :=
    Parse.wraps_assignment plain node middle ran faultless₂
  cases carries with
  | wide wide =>
    rw [narrow] at wide
    cases wide
  | same current =>
    have positive : 0 < (Scope.ofModule (source.length + 2)).budget := Nat.succ_pos _
    obtain ⟨items, before, after, opened, listed, faultless₄, outcome⟩ :=
      Parse.operand_begins begins positive operand faultless₃
    refine ⟨_, before, after, items, opened, listed, faultless₄, ?_⟩
    rcases outcome with ⟨whole, behind⟩ | far
    · rw [current, behind] at ends
      exact .inl ⟨whole, ends⟩
    · exact .inr far

end MessageHarvest.Script
