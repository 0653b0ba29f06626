import MessageHarvest.Proofs.Script.Keeping
import MessageHarvest.Script.Expression

/-!
What an expression makes of its first operand: it is handed on as it is, with the token behind it, or
a larger expression goes on from there.
-/

namespace MessageHarvest.Script

def Token.isFinal : Token → Bool
  | .finish => true
  | .mark .comma => true
  | .mark .parenClose => true
  | .broken _ => true
  | _ => false

inductive Token.Plain : Token → Prop
  | string (value : Option Text) : Plain (.string value)
  | word {text : Text} (reference : Word.isReference text = true) : Plain (.word text false)

theorem Token.Plain.ne_word {token : Token} (plain : token.Plain) {word : Text}
    (reserved : Word.isReference word = false) : token ≠ .word word false := by
  cases plain with
  | string value => simp
  | word reference =>
    rintro ⟨⟩
    rw [reference] at reserved
    cases reserved

def Node.isWide : Node → Bool
  | .identifier .. | .member .. | .privateMember .. | .computedMember .. | .call ..
  | .optionalCall .. | .chain .. => false
  | _ => true

namespace Parse

variable {α β : Type} {scope : Scope} {start : State}

section Running

theorem run_bind_of_done {parser : Parse β} {next : β → Parse α} {value : β} {middle : State}
    (done : parser.run scope start = .done value middle) :
    (parser >>= next).run scope start = (next value).run scope middle := by
  change (chain parser next).run scope start = _
  unfold chain
  dsimp only
  rw [done]

@[simp]
theorem run_pure (value : α) : (pure value : Parse α).run scope start = .done value start := rfl

@[simp]
theorem run_token (next : Token → Parse α) :
    (token >>= next).run scope start = (next start.current.token).run scope start := rfl

@[simp]
theorem run_line (next : Nat → Parse α) :
    (line >>= next).run scope start = (next start.current.start.line).run scope start := rfl

@[simp]
theorem run_scope (next : Scope → Parse α) :
    (Parse.scope >>= next).run scope start = (next scope).run scope start := rfl

@[simp]
theorem run_newline (next : Bool → Parse α) :
    (newline >>= next).run scope start = (next start.current.newline).run scope start := rfl

@[simp]
theorem run_peek (next : Lexeme → Parse α) :
    (peek >>= next).run scope start =
      (next (Lexeme.next start.current.after)).run scope start := rfl

@[simp]
theorem run_advance (next : Unit → Parse α) :
    (advance >>= next).run scope start =
      (next ()).run scope (start.enter (Lexeme.next start.current.after)) := rfl

@[simp]
theorem run_at? (mark : Mark) (next : Bool → Parse α) :
    (at? mark >>= next).run scope start =
      (next (start.current.token = .mark mark)).run scope start := rfl

theorem run_at?_ne {mark : Mark} (other : start.current.token ≠ .mark mark) (next : Bool → Parse α) :
    (at? mark >>= next).run scope start = (next false).run scope start := by
  rw [run_at?, decide_eq_false other]

@[simp]
theorem run_atWord (word : Text) (next : Bool → Parse α) :
    (atWord word >>= next).run scope start =
      (next (start.current.token = .word word false)).run scope start := by
  refine run_bind_of_done ?_
  unfold atWord
  rw [run_token]
  cases start.current.token with
  | word text escaped => cases escaped <;> simp
  | _ => simp

theorem run_eat {mark : Mark} {eaten : Bool} {state : State}
    (done : (eat mark).run scope start = .done eaten state) :
    (eaten = false ∧ state = start) ∨ (eaten = true ∧ start.current.token = .mark mark ∧
      state = start.enter (Lexeme.next start.current.after)) := by
  unfold eat at done
  rw [run_at?] at done
  split at done
  · rename_i here
    cases done
    exact .inr ⟨rfl, by simpa using here, rfl⟩
  · cases done
    exact .inl ⟨rfl, rfl⟩

end Running

theorem run_grow {step : α → Parse (Option α)} {motive : α → State → Prop} {value result : α}
    {state : State} (done : (grow step value).run scope start = .done result state)
    (first : motive value start)
    (next : ∀ value middle value' state, motive value middle →
      (step value).run scope middle = .done (some value') state → motive value' state)
    (last : ∀ value middle state, motive value middle →
      (step value).run scope middle = .done none state → motive value state) :
    motive result state := by
  have upTo (n : Nat) (value : α) (middle : State) (holds : motive value middle)
      (done : (growUpTo step n value).run scope middle = .done result state) :
      motive result state := by
    induction n generalizing value middle with
    | zero =>
      cases done
      exact holds
    | succ n ih =>
      obtain ⟨found, reached, step₁, rest⟩ := run_bind done
      cases found with
      | none =>
        cases rest
        exact last value middle state holds step₁
      | some value' => exact ih value' reached (next value middle value' reached holds step₁) rest
  exact upTo scope.budget value start first done

inductive Carries (node : Node) (lexeme : Lexeme) : Node → State → Prop
  | same {state : State} (current : state.current = lexeme) : Carries node lexeme node state
  | wide {value : Node} {state : State} (larger : value.isWide = true)
      (goes : lexeme.token.isFinal = false) : Carries node lexeme value state

theorem Carries.trans {a b c : Node} {lexeme : Lexeme} {middle state : State}
    (first : Carries a lexeme b middle) (second : Carries b middle.current c state) :
    Carries a lexeme c state := by
  cases first with
  | same current =>
    rw [current] at second
    exact second
  | wide larger goes =>
    cases second with
    | same => exact .wide larger goes
    | wide larger' => exact .wide larger' goes

/-- Where `outer` is done, so is `inner` at its beginning, and `outer` carries what `inner` gives. -/
def Wraps (outer inner : Parse Node) (scope : Scope) (start : State) : Prop :=
  ∀ value state, outer.run scope start = .done value state → state.notes = [] →
    ∃ node middle, inner.run scope start = .done node middle ∧ middle.notes = [] ∧
      Carries node middle.current value state

theorem Wraps.trans {a b c : Parse Node} (first : Wraps a b scope start)
    (second : Wraps b c scope start) : Wraps a c scope start := by
  intro value state done faultless
  obtain ⟨x, middle, done₁, faultless₁, carries₁⟩ := first value state done faultless
  obtain ⟨node, reached, done₂, faultless₂, carries₂⟩ := second x middle done₁ faultless₁
  exact ⟨node, reached, done₂, faultless₂, carries₂.trans carries₁⟩

theorem Wraps.bind {inner : Parse Node} {next : Node → Parse Node}
    (rest : ∀ node middle value state, (next node).run scope middle = .done value state →
      state.notes = [] → Carries node middle.current value state) :
    Wraps (inner >>= next) inner scope start := by
  intro value state done faultless
  obtain ⟨node, middle, done₁, done₂⟩ := run_bind done
  have faultless₁ := (reaches_of_done done₂).faultless_start faultless
  exact ⟨node, middle, done₁, faultless₁, rest node middle value state done₂ faultless⟩

section Levels

variable {grammar : Grammar}

theorem wraps_postfixUpdate (arrows : Bool) :
    Wraps (postfixUpdate grammar arrows) (operand grammar arrows) scope start := by
  refine Wraps.bind fun node middle value state done faultless => ?_
  split at done
  · cases done
    exact .same rfl
  · rw [run_newline] at done
    split at done
    · cases done
      exact .same rfl
    · rw [run_at?, run_at?] at done
      split at done
      · rename_i updates
        obtain ⟨_, reached, -, done⟩ := run_bind done
        cases done
        refine .wide rfl ?_
        rw [Bool.or_eq_true, decide_eq_true_eq, decide_eq_true_eq] at updates
        rcases updates with update | update <;> rw [update] <;> rfl
      · cases done
        exact .same rfl

theorem run_atWord_reserved {word : Text} (reserved : Word.isReference word = false)
    (next : Bool → Parse α) (plain : start.current.token.Plain) :
    (atWord word >>= next).run scope start = (next false).run scope start := by
  rw [run_atWord, decide_eq_false (plain.ne_word reserved)]

theorem run_atUnaryWord (next : Bool → Parse α) (plain : start.current.token.Plain) :
    (atUnaryWord >>= next).run scope start = (next false).run scope start := by
  refine run_bind_of_done ?_
  unfold atUnaryWord
  rw [run_atWord_reserved (by decide) _ plain, run_atWord_reserved (by decide) _ plain,
    run_atWord_reserved (by decide) _ plain]
  rfl

theorem wraps_unary (arrows : Bool) (plain : start.current.token.Plain) :
    Wraps (unary grammar arrows) (operand grammar arrows) scope start := by
  have skips : (unary grammar arrows).run scope start =
      (postfixUpdate grammar arrows).run scope start := by
    unfold unary
    rw [run_token]
    split
    case h_7 =>
      rw [run_atUnaryWord _ plain, if_neg nofun, run_atWord_reserved (by decide) _ plain,
        if_neg nofun]
    all_goals
      rename_i mark
      rw [mark] at plain
      cases plain
  intro value state done faultless
  rw [skips] at done
  exact wraps_postfixUpdate arrows value state done faultless

theorem wraps_firstOperand (arrows : Bool) :
    Wraps (firstOperand grammar arrows) (unary grammar arrows) scope start := by
  intro value state done faultless
  unfold firstOperand at done
  rw [run_line] at done
  obtain ⟨tried, middle, attempted, done⟩ := run_bind done
  rcases run_attempt attempted with ⟨node, rfl, ran⟩ | ⟨report, rfl⟩
  · cases done
    exact ⟨node, state, ran, faultless, .same rfl⟩
  · dsimp only at done
    rw [run_token] at done
    split at done
    · cases done
    · obtain ⟨found, reached, -, done⟩ := run_bind done
      cases found with
      | none => cases done
      | some found =>
        refine absurd faultless (Faulty.notes scope reached value state done)

theorem final_of_precedence? {mark : Mark} {precedence : Nat}
    (h : mark.precedence? = some precedence) : (Token.mark mark).isFinal = false := by
  cases mark with
  | comma => cases h
  | parenClose => cases h
  | _ => rfl

theorem final_of_isAssignment {mark : Mark} (h : mark.isAssignment = true) :
    (Token.mark mark).isFinal = false := by
  cases mark with
  | comma => cases h
  | parenClose => cases h
  | _ => rfl

theorem run_operator? {found : Option (Nat × OperatorKind)} {state : State}
    (done : operator?.run scope start = .done found state) :
    state = start ∧ (found ≠ none → start.current.token.isFinal = false) := by
  unfold operator? at done
  rw [run_token] at done
  split at done
  · rename_i mark here
    split at done
    · rename_i precedence ranks
      rw [here]
      refine ⟨?_, fun _ => final_of_precedence? ranks⟩
      split at done
      · cases done
        rfl
      · split at done <;> cases done <;> rfl
    · cases done
      exact ⟨rfl, fun found => absurd rfl found⟩
  · rename_i text here
    rw [here]
    refine ⟨?_, fun _ => rfl⟩
    split at done
    · cases done
      rfl
    · rw [run_scope] at done
      split at done <;> cases done <;> rfl
  · cases done
    exact ⟨rfl, fun found => absurd rfl found⟩

theorem run_binaryStep {node : Node} {minimum : Nat} {found : Option Node} {state : State}
    (done : (binaryStep grammar minimum node).run scope start = .done found state) :
    (found = none → state = start) ∧ ∀ value, found = some value →
      start.current.token.isFinal = false ∧ value.isWide = true := by
  unfold binaryStep at done
  obtain ⟨operator, middle, looked, done⟩ := run_bind done
  obtain ⟨rfl, goes⟩ := run_operator? looked
  cases operator with
  | none =>
    cases done
    exact ⟨fun _ => rfl, nofun⟩
  | some operator =>
    obtain ⟨precedence, kind⟩ := operator
    have final := goes (Option.some_ne_none _)
    dsimp only at done
    split at done
    · cases done
      exact ⟨fun _ => rfl, nofun⟩
    · rw [run_at?] at done
      have last : ∃ value, found = some value ∧ value.isWide = true := by
        split at done
        · obtain ⟨_, _, failed, -⟩ := run_bind done
          cases failed
        · obtain ⟨_, _, -, done⟩ := run_bind done
          obtain ⟨_, _, -, done⟩ := run_bind done
          obtain ⟨_, _, -, done⟩ := run_bind done
          obtain ⟨_, _, -, done⟩ := run_bind done
          cases done
          exact ⟨_, rfl, rfl⟩
      obtain ⟨value, rfl, wide⟩ := last
      exact ⟨nofun, fun _ same => by cases same; exact ⟨final, wide⟩⟩

theorem carries_binaryTail {node value : Node} {minimum : Nat} {state : State}
    (done : (binaryTail grammar node minimum).run scope start = .done value state) :
    Carries node start.current value state := by
  refine run_grow done (.same rfl) ?_ ?_
  · intro value middle value' state carries step
    obtain ⟨goes, wide⟩ := (run_binaryStep step).2 value' rfl
    exact carries.trans (.wide wide goes)
  · intro value middle state carries step
    rw [(run_binaryStep step).1 rfl]
    exact carries

theorem wraps_binary (arrows : Bool) :
    Wraps (binary grammar arrows) (firstOperand grammar arrows) scope start := by
  refine Wraps.bind fun node middle value state done faultless => ?_
  split at done
  · cases done
    exact .same rfl
  · exact carries_binaryTail done

theorem wraps_conditional (arrows : Bool) :
    Wraps (conditional grammar arrows) (binary grammar arrows) scope start := by
  refine Wraps.bind fun node middle value state done faultless => ?_
  split at done
  · cases done
    exact .same rfl
  · obtain ⟨asks, reached, eaten, rest⟩ := run_bind done
    rcases run_eat eaten with ⟨rfl, rfl⟩ | ⟨rfl, question, -⟩
    · rw [if_neg nofun] at rest
      cases rest
      exact .same rfl
    · rw [if_pos rfl] at rest
      obtain ⟨_, _, -, rest⟩ := run_bind rest
      obtain ⟨_, _, -, rest⟩ := run_bind rest
      obtain ⟨_, _, -, rest⟩ := run_bind rest
      cases rest
      exact .wide rfl (by rw [question]; rfl)

theorem wraps_conditional_of_assignment (plain : start.current.token.Plain) :
    Wraps (assignment grammar) (conditional grammar true) scope start := by
  intro value state
  unfold assignment
  rw [run_scope, run_atWord_reserved (by decide) _ plain, Bool.and_false, if_neg nofun]
  revert value state
  refine Wraps.bind fun node middle value state done faultless => ?_
  split at done
  · cases done
    exact .same rfl
  · rw [run_token] at done
    split at done
    · rename_i mark here
      split at done
      · rename_i assigns
        have goes : middle.current.token.isFinal = false := by
          rw [here]
          exact final_of_isAssignment assigns
        have wide : value.isWide = true := by
          dsimp only at done
          split at done
          all_goals
            obtain ⟨_, _, -, done⟩ := run_bind done
            obtain ⟨_, _, -, done⟩ := run_bind done
            obtain ⟨_, _, -, done⟩ := run_bind done
            cases done
            rfl
        exact .wide wide goes
      · cases done
        exact .same rfl
    · cases done
      exact .same rfl

theorem wraps_assignment (plain : start.current.token.Plain) :
    Wraps (assignment grammar) (operand grammar true) scope start := by
  have yields : Wraps (assignment grammar) (conditional grammar true) scope start :=
    wraps_conditional_of_assignment plain
  refine yields.trans ((wraps_conditional true).trans ((wraps_binary true).trans ?_))
  exact (wraps_firstOperand true).trans (wraps_unary true plain)

end Levels

section Accesses

variable {grammar : Grammar} {calls : Bool} {node : Node}

inductive Accesses (node : Node) : Node → Prop
  | member {line : Nat} {property : Text} : Accesses node (.member line node property)
  | privateMember {line : Nat} : Accesses node (.privateMember line node)
  | computedMember {line : Nat} {index : Node} : Accesses node (.computedMember line node index)
  | call {line : Nat} {items : List Node} : Accesses node (.call line node items)
  | optionalCall {line : Nat} {items : List Node} : Accesses node (.optionalCall line node items)
  | taggedTemplate {line : Nat} {content : Node} : Accesses node (.taggedTemplate line node content)

inductive Extends (node : Node) : Node → Prop
  | plain {value : Node} (accesses : Accesses node value) : Extends node value
  | chain {line : Nat} {base : Node} (accesses : Accesses node base) : Extends node (.chain line base)

theorem Accesses.chained {base : Node} (accesses : Accesses node base) (optional : Bool) :
    Extends node (chained optional base) := by
  cases optional with
  | false => exact .plain accesses
  | true => exact .chain accesses

theorem extends_propertyAccess {optional : Bool} {value : Node} {state : State}
    (done : (propertyAccess node optional).run scope start = .done value state) :
    Extends node value := by
  unfold propertyAccess at done
  rw [run_at?] at done
  split at done
  · obtain ⟨_, _, -, done⟩ := run_bind done
    cases done
    exact Accesses.privateMember.chained optional
  · obtain ⟨_, _, -, done⟩ := run_bind done
    cases done
    exact Accesses.member.chained optional

theorem extends_computedAccess {optional : Bool} {value : Node} {state : State}
    (done : (computedAccess grammar node optional).run scope start = .done value state) :
    Extends node value := by
  obtain ⟨_, _, -, done⟩ := run_bind done
  obtain ⟨_, _, -, done⟩ := run_bind done
  obtain ⟨_, _, -, done⟩ := run_bind done
  cases done
  exact Accesses.computedMember.chained optional

theorem extends_callOf {optional : Bool} {value : Node} {state : State}
    (done : (callOf grammar node optional).run scope start = .done value state) :
    Extends node value := by
  obtain ⟨_, _, -, done⟩ := run_bind done
  cases done
  cases optional with
  | false => exact .plain .call
  | true => exact .chain .optionalCall

theorem run_some {parser : Parse α} {found : Option α} {state : State}
    (done : (parser >>= fun value => pure (some value)).run scope start = .done found state) :
    ∃ value, found = some value ∧ parser.run scope start = .done value state := by
  obtain ⟨value, middle, ran, last⟩ := run_bind done
  cases last
  exact ⟨value, rfl, ran⟩

theorem run_subscript {found : Option Node} {state : State}
    (done : (subscript grammar calls node).run scope start = .done found state) :
    (found = none ∧ state = start) ∨
      ∃ value, found = some value ∧ start.current.token.isFinal = false ∧ Extends node value := by
  unfold subscript at done
  dsimp only at done
  rw [run_token] at done
  split at done
  · rename_i here
    rw [run_advance] at done
    obtain ⟨value, rfl, ran⟩ := run_some done
    exact .inr ⟨value, rfl, by rw [here]; rfl, extends_propertyAccess ran⟩
  · rename_i here
    obtain ⟨value, rfl, ran⟩ := run_some done
    exact .inr ⟨value, rfl, by rw [here]; rfl, extends_computedAccess ran⟩
  · rename_i here
    split at done
    · obtain ⟨value, rfl, ran⟩ := run_some done
      exact .inr ⟨value, rfl, by rw [here]; rfl, extends_callOf ran⟩
    · cases done
      exact .inl ⟨rfl, rfl⟩
  · rename_i here
    have goes : start.current.token.isFinal = false := by
      rw [here]
      rfl
    rw [run_advance, run_at?] at done
    split at done
    · obtain ⟨value, rfl, ran⟩ := run_some done
      exact .inr ⟨value, rfl, goes, extends_callOf ran⟩
    · rw [run_at?] at done
      split at done
      · obtain ⟨value, rfl, ran⟩ := run_some done
        exact .inr ⟨value, rfl, goes, extends_computedAccess ran⟩
      · obtain ⟨value, rfl, ran⟩ := run_some done
        exact .inr ⟨value, rfl, goes, extends_propertyAccess ran⟩
  · rename_i here
    have last : ∃ content, found = some (.taggedTemplate node.line node content) := by
      split at done
      · obtain ⟨_, _, -, done⟩ := run_bind done
        obtain ⟨_, _, -, done⟩ := run_bind done
        cases done
        exact ⟨_, rfl⟩
      · obtain ⟨_, _, -, done⟩ := run_bind done
        cases done
        exact ⟨_, rfl⟩
    obtain ⟨content, rfl⟩ := last
    exact .inr ⟨_, rfl, by rw [here]; rfl, .plain .taggedTemplate⟩
  · cases done
    exact .inl ⟨rfl, rfl⟩

theorem subscripts_of_isFinal {value : Node} {state : State}
    (final : start.current.token.isFinal = true)
    (done : (subscripts grammar calls node).run scope start = .done value state) :
    value = node ∧ state = start := by
  refine run_grow (motive := fun value state => value = node ∧ state = start) done ⟨rfl, rfl⟩ ?_ ?_
  · rintro value middle value' state ⟨rfl, rfl⟩ step
    rcases run_subscript step with ⟨none, -⟩ | ⟨found, -, goes, -⟩
    · cases none
    · rw [final] at goes
      cases goes
  · rintro value middle state ⟨rfl, rfl⟩ step
    rcases run_subscript step with ⟨-, same⟩ | ⟨found, some, -⟩
    · exact ⟨rfl, same⟩
    · cases some

theorem run_atMarkup (next : Bool → Parse α) (plain : start.current.token.Plain) :
    (atMarkup >>= next).run scope start = (next false).run scope start := by
  have other : start.current.token ≠ .mark .less := by
    intro less
    rw [less] at plain
    cases plain
  refine run_bind_of_done ?_
  unfold atMarkup
  rw [run_at?, decide_eq_false other]
  rfl

theorem run_operand (arrows : Bool) (plain : start.current.token.Plain) :
    (operand grammar arrows).run scope start = (do
      let node ← construction grammar arrows
      if isArrow node then return node else subscripts grammar true node).run scope start := by
  unfold operand
  rw [run_atMarkup _ plain, if_neg nofun, run_atWord_reserved (by decide) _ plain, if_neg nofun,
    run_atWord_reserved (by decide) _ plain, if_neg nofun]

theorem run_construction (arrows : Bool) (plain : start.current.token.Plain) :
    (construction grammar arrows).run scope start = (do
      let node ← primary grammar arrows
      if isArrow node then return node else subscripts grammar false node).run scope start := by
  unfold construction
  rw [run_atWord_reserved (by decide) _ plain, if_neg nofun,
    run_atWord_reserved (by decide) _ plain, if_neg nofun,
    run_atWord_reserved (by decide) _ plain, if_neg nofun]

theorem operand_string {value : Option Text} {arrows : Bool} {found : Node} {state : State}
    (here : start.current.token = .string value)
    (final : (Lexeme.next start.current.after).token.isFinal = true)
    (done : (operand grammar arrows).run scope start = .done found state) :
    found = .string start.current.start.line value ∧
      state = start.enter (Lexeme.next start.current.after) := by
  have plain : start.current.token.Plain := by
    rw [here]
    exact .string value
  have first : (primary grammar arrows).run scope start =
      .done (.string start.current.start.line value)
        (start.enter (Lexeme.next start.current.after)) := by
    unfold primary
    rw [run_line, run_token, here]
    rfl
  have noArrow : ¬ isArrow (.string start.current.start.line value) = true := by simp [isArrow]
  rw [run_operand arrows plain] at done
  obtain ⟨node, middle, built, done⟩ := run_bind done
  rw [run_construction arrows plain, run_bind_of_done first, if_neg noArrow] at built
  obtain ⟨rfl, rfl⟩ := subscripts_of_isFinal final built
  rw [if_neg noArrow] at done
  exact subscripts_of_isFinal final done

theorem assignment_string {value : Option Text} {found : Node} {state : State}
    (here : start.current.token = .string value)
    (final : (Lexeme.next start.current.after).token.isFinal = true)
    (done : (assignment grammar).run scope start = .done found state) (faultless : state.notes = []) :
    found = .string start.current.start.line value ∧
      state.current = Lexeme.next start.current.after := by
  have plain : start.current.token.Plain := by
    rw [here]
    exact .string value
  obtain ⟨node, middle, ran, -, carries⟩ := wraps_assignment plain found state done faultless
  obtain ⟨rfl, rfl⟩ := operand_string here final ran
  cases carries with
  | same current => exact ⟨rfl, current⟩
  | wide _ goes =>
    change (Lexeme.next start.current.after).token.isFinal = false at goes
    rw [final] at goes
    cases goes

end Accesses

end Parse

end MessageHarvest.Script
