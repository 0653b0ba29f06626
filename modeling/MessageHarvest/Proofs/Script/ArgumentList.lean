import MessageHarvest.Proofs.Script.Opening
import MessageHarvest.Proofs.Script.SingleCall

namespace MessageHarvest.Script

namespace Parse

variable {scope : Scope} {start state : State} {grammar : Grammar} {n m : Nat}

theorem spreadOrAssignment_string {value : Option Text} {found : Node}
    (here : start.current.token = .string value)
    (final : (Lexeme.next start.current.after).token.isFinal = true)
    (done : (spreadOrAssignment (Grammar.level n)).run scope start = .done found state)
    (faultless : state.notes = []) :
    found = .string start.current.start.line value ∧
      state.current = Lexeme.next start.current.after := by
  unfold spreadOrAssignment at done
  rw [run_line] at done
  obtain ⟨spreads, middle, ate, rest⟩ := run_bind done
  rcases run_eat ate with ⟨rfl, rfl⟩ | ⟨rfl, ellipsis, -⟩
  · rw [if_neg nofun] at rest
    cases n with
    | zero => cases rest
    | succ n => exact assignment_string here final rest faultless
  · rw [here] at ellipsis
    cases ellipsis

theorem run_expect {mark : Mark} (done : (expect mark).run scope start = .done () state) :
    start.current.token = .mark mark ∧ state = start.enter (Lexeme.next start.current.after) := by
  obtain ⟨eaten, middle, ate, rest⟩ := run_bind done
  rcases run_eat ate with ⟨rfl, rfl⟩ | ⟨rfl, here, rfl⟩
  · rw [if_neg nofun] at rest
    unfold failExpected fail at rest
    cases rest
  · rw [if_pos rfl] at rest
    cases rest
    exact ⟨here, rfl⟩

theorem run_argument {found : Option Node}
    (done : (argument grammar).run scope start = .done found state) :
    (found = none ∧ start.current.token = .mark .parenClose ∧ state = start) ∨
      ∃ item middle, found = some item ∧ start.current.token ≠ .mark .parenClose ∧
        (spreadOrAssignment grammar).run scope start = .done item middle ∧
        ((middle.current.token = .mark .parenClose ∧ state = middle) ∨
          (middle.current.token = .mark .comma ∧
            state = middle.enter (Lexeme.next middle.current.after))) := by
  unfold argument at done
  rw [run_at?] at done
  split at done
  · rename_i close
    cases done
    exact .inl ⟨rfl, by simpa using close, rfl⟩
  · rename_i opened
    obtain ⟨item, middle, ran, rest⟩ := run_bind done
    rw [run_at?] at rest
    have notClose : start.current.token ≠ .mark .parenClose := by simpa using opened
    split at rest
    · rename_i close
      cases rest
      exact .inr ⟨item, state, rfl, notClose, ran, .inl ⟨by simpa using close, rfl⟩⟩
    · obtain ⟨_, reached, comma, last⟩ := run_bind rest
      cases last
      exact .inr ⟨item, middle, rfl, notClose, ran, .inr (run_expect comma)⟩

theorem collectUpTo_argument_nil
    (done : (collectUpTo (argument grammar) m).run scope start = .done [] state) :
    start.current.token = .mark .parenClose ∧ state = start := by
  rcases run_argument (run_collectUpTo_nil done) with ⟨-, close, same⟩ | ⟨_, _, some, -⟩
  · exact ⟨close, same⟩
  · cases some

theorem collectUpTo_argument_cons {first : Node} {others : List Node}
    (done : (collectUpTo (argument grammar) m).run scope start = .done (first :: others) state) :
    ∃ k middle behind, start.current.token ≠ .mark .parenClose ∧
      (spreadOrAssignment grammar).run scope start = .done first behind ∧
      ((behind.current.token = .mark .parenClose ∧ middle = behind) ∨
        (behind.current.token = .mark .comma ∧
          middle = behind.enter (Lexeme.next behind.current.after))) ∧
      (collectUpTo (argument grammar) k).run scope middle = .done others state := by
  obtain ⟨k, middle, step, rest⟩ := run_collectUpTo_cons done
  rcases run_argument step with ⟨none, -⟩ | ⟨item, behind, same, opened, ran, next⟩
  · cases none
  · cases same
    exact ⟨k, middle, behind, opened, ran, next, rest⟩

theorem run_arguments {items : List Node}
    (done : (arguments grammar).run scope start = .done items state) :
    ∃ middle, (collectUpTo (argument grammar) scope.budget).run scope
        (start.enter (Lexeme.next start.current.after)) = .done items middle ∧
      middle.current.token = .mark .parenClose ∧
      state = middle.enter (Lexeme.next middle.current.after) := by
  obtain ⟨_, opened, first, rest⟩ := run_bind done
  obtain ⟨-, rfl⟩ := run_expect first
  obtain ⟨values, middle, collected, rest⟩ := run_bind rest
  obtain ⟨_, closed, last, rest⟩ := run_bind rest
  obtain ⟨close, rfl⟩ := run_expect last
  cases rest
  exact ⟨middle, collected, close, rfl⟩

theorem collectUpTo_string {value : Option Text} {items : List Node}
    (here : start.current.token = .string value)
    (final : (Lexeme.next start.current.after).token.isFinal = true)
    (done : (collectUpTo (argument (Grammar.level n)) m).run scope start = .done items state)
    (faultless : state.notes = []) :
    ∃ others k middle, items = .string start.current.start.line value :: others ∧
      (collectUpTo (argument (Grammar.level n)) k).run scope middle = .done others state ∧
      (((Lexeme.next start.current.after).token = .mark .parenClose ∧
          middle.current = Lexeme.next start.current.after) ∨
        ((Lexeme.next start.current.after).token = .mark .comma ∧
          (Lexeme.next (Lexeme.next start.current.after).after).notes = [] ∧
          middle.current = Lexeme.next (Lexeme.next start.current.after).after)) := by
  cases items with
  | nil =>
    obtain ⟨close, -⟩ := collectUpTo_argument_nil done
    rw [here] at close
    cases close
  | cons first others =>
    obtain ⟨k, middle, behind, -, ran, next, rest⟩ := collectUpTo_argument_cons done
    have faultless₁ := (reaches_of_done rest).faultless_start faultless
    rcases next with ⟨close, rfl⟩ | ⟨comma, rfl⟩
    · obtain ⟨rfl, current⟩ := spreadOrAssignment_string here final ran faultless₁
      rw [current] at close
      exact ⟨others, k, _, rfl, rest, .inl ⟨close, current⟩⟩
    · obtain ⟨cut, faultless₂⟩ := List.append_eq_nil_iff.1 faultless₁
      obtain ⟨rfl, current⟩ := spreadOrAssignment_string here final ran faultless₂
      refine ⟨others, k, _, rfl, rest, .inr ?_⟩
      rw [← current]
      exact ⟨comma, List.reverse_eq_nil_iff.1 cut, rfl⟩

theorem collectUpTo_plain {message spaces tail : Text} {delimiter c : Char} {mark : Mark}
    {cursor : Cursor} {items : List Node} (quotes : delimiter = '\'' ∨ delimiter = '"')
    (unquoted : delimiter ∉ message) (unescaped : '\\' ∉ message)
    (blank : ∀ d ∈ spaces, Text.isSpace d = true) (single : Lexeme.Single c mark)
    (closes : mark ≠ .parenOpen)
    (whole : cursor.rest = delimiter :: (message ++ delimiter :: (spaces ++ c :: tail)))
    (first : start.current = Lexeme.next cursor) (clean : start.current.notes = [])
    (done : (collectUpTo (argument (Grammar.level n)) m).run scope start = .done items state)
    (faultless : state.notes = []) :
    ∃ line others k middle, items = .string line (some message) :: others ∧
      (collectUpTo (argument (Grammar.level n)) k).run scope middle = .done others state ∧
      ((mark = .comma ∧ ∃ place, place.rest = tail ∧ (Lexeme.next place).notes = [] ∧
          middle.current = Lexeme.next place) ∨
        (mark = .parenClose ∧ middle.current.token = .mark .parenClose ∧
          middle.current.after.rest = tail)) := by
  rw [first] at clean
  obtain ⟨token, after⟩ := Lexeme.next_plain quotes unquoted unescaped whole clean
  rw [← first] at token after
  have following := Lexeme.next_spaces single blank after
  have final : (Lexeme.next start.current.after).token.isFinal = true := by
    rcases following with ⟨here, -⟩ | ⟨report, here⟩ <;> rw [here]
    · cases single with
      | parenOpen => exact absurd rfl closes
      | _ => rfl
    · rfl
  obtain ⟨others, k, middle, rfl, rest, outcome⟩ := collectUpTo_string token final done faultless
  refine ⟨_, others, k, middle, rfl, rest, ?_⟩
  rcases following with ⟨here, after⟩ | ⟨report, here⟩
  · rcases outcome with ⟨close, current⟩ | ⟨comma, clean', current⟩
    · rw [close] at here
      cases here
      rw [current]
      exact .inr ⟨rfl, close, after⟩
    · rw [comma] at here
      cases here
      exact .inl ⟨rfl, _, after, clean', current⟩
  · rcases outcome with ⟨close, -⟩ | ⟨comma, -⟩
    · rw [here] at close
      cases close
    · rw [here] at comma
      cases comma

end Parse

namespace Ending

variable {ending : Ending}

inductive Closing (ending : Ending) : List Node → Lexeme → Prop
  | literal {items : List Node} {line : Nat} {lexeme : Lexeme} (others : items ≠ [])
      (token : lexeme.token = .mark .parenClose) (after : lexeme.after.rest = []) :
      Closing ending (items ++ [.string line (some ending.body)]) lexeme
  | within {items : List Node} {lexeme : Lexeme} (token : lexeme.token = .mark .parenClose)
      (within : ending.Within lexeme.after.rest) : Closing ending items lexeme

theorem Closing.cons {items : List Node} {lexeme : Lexeme} (h : ending.Closing items lexeme)
    (item : Node) : ending.Closing (item :: items) lexeme := by
  cases h with
  | @literal items line _ others token after =>
    exact .literal (List.cons_ne_nil item items) token after
  | within token within => exact .within token within

theorem within_of_early {lexeme : Lexeme} (early : ending.Early lexeme)
    (token : lexeme.token = .mark .parenClose) : ending.Within lexeme.after.rest := by
  cases early with
  | read start after close => exact close token
  | comma comma =>
    rw [token] at comma
    cases comma
  | broken broken =>
    rw [token] at broken
    cases broken

theorem collectUpTo_close {scope : Scope} {start state : State} {grammar : Grammar} {m : Nat}
    {items : List Node} (close : start.current.token = .mark .parenClose)
    (done : (Parse.collectUpTo (Parse.argument grammar) m).run scope start = .done items state) :
    items = [] ∧ state = start := by
  cases items with
  | nil => exact ⟨rfl, (Parse.collectUpTo_argument_nil done).2⟩
  | cons first others =>
    obtain ⟨_, _, _, opened, -⟩ := Parse.collectUpTo_argument_cons done
    exact absurd close opened

theorem collectUpTo_literal {scope : Scope} {start state : State} {n m : Nat} {items : List Node}
    (here : start.current.token = .string (some ending.body)) (late : ending.Late start.current)
    (done : (Parse.collectUpTo (Parse.argument (Grammar.level n)) m).run scope start =
      .done items state) (faultless : state.notes = []) :
    ∃ line, items = [.string line (some ending.body)] ∧
      state.current.token = .mark .parenClose ∧ state.current.after.rest = [] := by
  have after : start.current.after.rest = [')'] := by
    cases late with
    | literal token begins after => exact after
    | close token =>
      rw [here] at token
      cases token
  have next : (Lexeme.next start.current.after).token = .mark .parenClose ∧
      ending.Late (Lexeme.next start.current.after) := next_close after
  obtain ⟨close, closing⟩ := next
  have final : (Lexeme.next start.current.after).token.isFinal = true := by rw [close]; rfl
  obtain ⟨others, k, middle, rfl, rest, outcome⟩ := Parse.collectUpTo_string here final done faultless
  rcases outcome with ⟨-, current⟩ | ⟨comma, -⟩
  · rw [← current] at close closing
    obtain ⟨rfl, rfl⟩ := collectUpTo_close close rest
    refine ⟨_, rfl, close, ?_⟩
    cases closing with
    | literal token =>
      rw [close] at token
      cases token
    | close token begins after => exact after
  · rw [close] at comma
    cases comma

theorem collectUpTo_early {scope : Scope} {start state : State} {n m : Nat} {items : List Node}
    (early : ending.Early start.current)
    (done : (Parse.collectUpTo (Parse.argument (Grammar.level n)) m).run scope start =
      .done items state) (faultless : state.notes = []) :
    ending.Closing items state.current := by
  -- every argument leaves the list at an early token, until the last comma is current
  induction items generalizing start m with
  | nil =>
    obtain ⟨close, rfl⟩ := Parse.collectUpTo_argument_nil done
    exact .within close (within_of_early early close)
  | cons first items ih =>
    obtain ⟨k, middle, behind, -, ran, next, rest⟩ := Parse.collectUpTo_argument_cons done
    have faultless₁ := (Parse.reaches_of_done rest).faultless_start faultless
    rcases next with ⟨-, rfl⟩ | ⟨comma, rfl⟩
    · have early' := Parse.Keeps.leads _ _ _ _ ran faultless₁ (.early early) early
      exact (ih early' rest).cons first
    · obtain ⟨cut, faultless₂⟩ := List.append_eq_nil_iff.1 faultless₁
      have early' := Parse.Keeps.leads _ _ _ _ ran faultless₂ (.early early) early
      have faultless₃ := List.reverse_eq_nil_iff.1 cut
      cases early' with
      | read begins after => exact (ih (early_next after faultless₃) rest).cons first
      | comma token begins after =>
        rcases next_due List.suffix_rfl after faultless₃ with ⟨here, late⟩ | ⟨report, -, early'⟩
        · obtain ⟨line, rfl, token, after⟩ := collectUpTo_literal here late rest faultless
          have others : [first] ≠ [] := List.cons_ne_nil first []
          exact .literal others token after
        · exact (ih early' rest).cons first
      | broken token =>
        rw [comma] at token
        cases token

end Ending

/-- What is left of the arguments of a module's only call behind the first one: they are read from
`start` to `stop`, where the closing parenthesis is current. -/
structure Remaining (source : Text) (others : List Node) (start stop : State) : Prop where
  collected : ∃ scope k, (Parse.collectUpTo
    (Parse.argument (Grammar.level (source.length + 2))) k).run scope start = .done others stop
  faultless : stop.notes = []
  clean : (Lexeme.next stop.current.after).notes = []
  ends : Parse.Ends (Lexeme.next stop.current.after)

theorem remaining_of_single {object method message spaces tail : Text} {delimiter c : Char}
    {mark : Mark} {node : Node} {source : Text}
    (objectName : Word.isName object = true) (reference : Word.isReference object = true)
    (methodName : Word.isName method = true) (quotes : delimiter = '\'' ∨ delimiter = '"')
    (unquoted : delimiter ∉ message) (unescaped : '\\' ∉ message)
    (blank : ∀ d ∈ spaces, Text.isSpace d = true) (single : Lexeme.Single c mark)
    (closes : mark ≠ .parenOpen)
    (whole : source = object ++ '.' :: (method ++ '(' ::
      delimiter :: (message ++ delimiter :: (spaces ++ c :: tail))))
    (parsed : parseModule source = .ok (.moduleBody 1 [node])) (narrow : node.isWide = false) :
    (∃ line line' others start stop, node = Parse.callOfProperty object method line
        (.string line' (some message) :: others) ∧
      Remaining source others start stop ∧
      ((mark = .comma ∧ ∃ place, place.rest = tail ∧ (Lexeme.next place).notes = [] ∧
          start.current = Lexeme.next place) ∨
        (mark = .parenClose ∧ start.current.token = .mark .parenClose ∧
          start.current.after.rest = tail))) ∨
      ∃ inner, Parse.isHigh inner = true ∧ Parse.Extends inner node := by
  have begins := begins_of_name objectName reference methodName
    (delimiter :: (message ++ delimiter :: (spaces ++ c :: tail)))
  rw [← whole] at begins
  obtain ⟨scope, before, after, items, opened, ran, faultless, outcome⟩ :=
    arguments_of_single parsed begins narrow
  rcases outcome with ⟨rfl, ends⟩ | far
  · obtain ⟨stop, collected, close, rfl⟩ := Parse.run_arguments ran
    obtain ⟨clean, faultless₁⟩ := List.append_eq_nil_iff.1 faultless
    have clean₁ := (Parse.reaches_of_done collected).faultless_start faultless₁
    obtain ⟨clean₁, -⟩ := List.append_eq_nil_iff.1 clean₁
    rw [opened] at collected clean₁
    obtain ⟨line, others, k, middle, rfl, rest, place⟩ := Parse.collectUpTo_plain quotes unquoted
      unescaped blank single closes rfl rfl (List.reverse_eq_nil_iff.1 clean₁) collected faultless₁
    have remaining : Remaining source others middle stop :=
      ⟨⟨scope, k, rest⟩, faultless₁, List.reverse_eq_nil_iff.1 clean, ends⟩
    exact .inl ⟨_, line, others, middle, stop, rfl, remaining, place⟩
  · exact .inr far

end MessageHarvest.Script
