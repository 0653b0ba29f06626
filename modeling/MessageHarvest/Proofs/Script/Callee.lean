import MessageHarvest.Proofs.Script.Operand
import MessageHarvest.Proofs.Script.KeepingExpression

namespace MessageHarvest.Script

namespace Parse

variable {α : Type} {scope : Scope} {start state : State} {grammar : Grammar} {arrows : Bool}

theorem ne_of_reserved {text word : Text} (reference : Word.isReference text = true)
    (reserved : Word.isReference word = false) : text ≠ word := by
  rintro rfl
  rw [reference] at reserved
  cases reserved

section Names

variable {text : Text} {node : Node}

theorem run_asyncFunctionFollows (next : Bool → Parse α)
    (dot : (Lexeme.next start.current.after).token = .mark .dot) :
    (asyncFunctionFollows >>= next).run scope start = (next false).run scope start := by
  refine run_bind_of_done ?_
  unfold asyncFunctionFollows
  rw [run_atWord]
  split
  · rw [run_peek, dot]
    rfl
  · rfl

theorem run_atReference (next : Bool → Parse α) (dot : start.current.token = .mark .dot) :
    (identifierExpression.atReference >>= next).run scope start = (next false).run scope start := by
  refine run_bind_of_done ?_
  unfold identifierExpression.atReference
  rw [run_token, dot]
  rfl

theorem identifierExpression_dot
    (dot : (Lexeme.next start.current.after).token = .mark .dot)
    (done : (identifierExpression grammar arrows text).run scope start = .done node state)
    (faultless : state.notes = []) :
    node = .identifier start.current.start.line text ∧
      state.current = Lexeme.next start.current.after := by
  unfold identifierExpression at done
  rw [run_line, run_advance] at done
  obtain ⟨_, middle, checked, done⟩ := run_bind done
  have faultless₁ := (reaches_of_done done).faultless_start faultless
  have same : middle.current = Lexeme.next start.current.after :=
    Stays.same _ _ _ _ checked faultless₁
  rw [← same] at dot
  dsimp only at done
  have notOpened : middle.current.token ≠ .mark .parenOpen := by simp [dot]
  have notArrow : middle.current.token ≠ .mark .arrow := by simp [dot]
  rw [run_newline, run_at?_ne notOpened, Bool.and_false, if_neg nofun, run_atReference _ dot,
    Bool.and_false, if_neg nofun, run_at?_ne notArrow, Bool.and_false, if_neg nofun] at done
  cases done
  exact ⟨rfl, same⟩

theorem wordExpression_dot (reference : Word.isReference text = true)
    (dot : (Lexeme.next start.current.after).token = .mark .dot)
    (done : (wordExpression grammar arrows text false).run scope start = .done node state)
    (faultless : state.notes = []) :
    node = .identifier start.current.start.line text ∧
      state.current = Lexeme.next start.current.after := by
  have other (word : Text) (reserved : Word.isReference word = false) : text ≠ word :=
    ne_of_reserved reference reserved
  unfold wordExpression at done
  rw [run_line, if_neg nofun, if_neg (other _ (by decide)), if_neg ?_, if_neg (other _ (by decide)),
    if_neg (other _ (by decide)), run_asyncFunctionFollows _ dot, if_neg nofun, if_pos ?_] at done
  · exact identifierExpression_dot dot done faultless
  · rw [reference, Bool.true_or]
  · have null := other "null".toList (by decide)
    have yes := other "true".toList (by decide)
    have no := other "false".toList (by decide)
    simp only [null, yes, no, decide_false, Bool.or_self, Bool.false_eq_true, not_false_eq_true]

theorem primary_dot (here : start.current.token = .word text false)
    (reference : Word.isReference text = true)
    (dot : (Lexeme.next start.current.after).token = .mark .dot)
    (done : (primary grammar arrows).run scope start = .done node state)
    (faultless : state.notes = []) :
    node = .identifier start.current.start.line text ∧
      state.current = Lexeme.next start.current.after := by
  unfold primary at done
  rw [run_line, run_token, here] at done
  exact wordExpression_dot reference dot done faultless

end Names

section Properties

variable {node : Node} {method : Text}

def propertyOf (object method : Text) (line : Nat) : Node :=
  .member line (.identifier line object) method

theorem nameText_word {escaped : Bool} (name : start.current.token = .word method escaped) :
    nameText.run scope start = .done method (start.enter (Lexeme.next start.current.after)) := by
  unfold nameText
  rw [run_token, name]
  rfl

theorem propertyAccess_name {optional escaped : Bool}
    (name : start.current.token = .word method escaped) :
    (propertyAccess node optional).run scope start =
      .done (chained optional (.member node.line node method))
        (start.enter (Lexeme.next start.current.after)) := by
  have notHash : start.current.token ≠ .mark .hash := by simp [name]
  unfold propertyAccess
  rw [run_at?_ne notHash, if_neg nofun]
  exact run_bind_of_done (nameText_word name)

theorem subscript_property {calls escaped : Bool} (dot : start.current.token = .mark .dot)
    (name : (Lexeme.next start.current.after).token = .word method escaped) :
    (subscript grammar calls node).run scope start =
      .done (some (chained (inChain node) (.member node.line node method)))
        ((start.enter (Lexeme.next start.current.after)).enter
          (Lexeme.next (Lexeme.next start.current.after).after)) := by
  unfold subscript
  dsimp only
  rw [run_token, dot]
  dsimp only
  rw [run_advance]
  exact run_bind_of_done (propertyAccess_name name)

theorem subscript_opening (opening : start.current.token = .mark .parenOpen) :
    (subscript grammar false node).run scope start = .done none start := by
  unfold subscript
  dsimp only
  rw [run_token, opening]
  rfl

structure Begins (object method : Text) (first : Lexeme) (opening : Lexeme) : Prop where
  name : first.token = .word object false
  reference : Word.isReference object = true
  dot : (Lexeme.next first.after).token = .mark .dot
  property : (Lexeme.next (Lexeme.next first.after).after).token = .word method false
  next : Lexeme.next (Lexeme.next (Lexeme.next first.after).after).after = opening
  opening : opening.token = .mark .parenOpen

theorem grow_succ {step : α → Parse (Option α)} {value value' : α} {middle : State}
    (positive : 0 < scope.budget)
    (done : (step value).run scope start = .done (some value') middle) :
    ∃ n, (grow step value).run scope start = (growUpTo step n value').run scope middle := by
  obtain ⟨n, budget⟩ := Nat.exists_eq_succ_of_ne_zero (Nat.pos_iff_ne_zero.1 positive)
  refine ⟨n, ?_⟩
  change (growUpTo step scope.budget value).run scope start = _
  rw [budget]
  exact run_bind_of_done done

theorem growUpTo_none {step : α → Parse (Option α)} {value : α}
    (done : (step value).run scope start = .done none start) (n : Nat) :
    (growUpTo step n value).run scope start = .done value start := by
  cases n with
  | zero => rfl
  | succ n => exact run_bind_of_done done

theorem construction_begins {object : Text} {opening : Lexeme}
    (begins : Begins object method start.current opening) (positive : 0 < scope.budget)
    (done : (construction grammar arrows).run scope start = .done node state)
    (faultless : state.notes = []) :
    node = propertyOf object method start.current.start.line ∧ state.current = opening := by
  have plain : start.current.token.Plain := by
    rw [begins.name]
    exact .word begins.reference
  rw [run_construction arrows plain] at done
  obtain ⟨name, middle, first, done⟩ := run_bind done
  have faultless₁ := (reaches_of_done done).faultless_start faultless
  obtain ⟨rfl, current⟩ := primary_dot begins.name begins.reference begins.dot first faultless₁
  have dot : middle.current.token = .mark .dot := by rw [current, begins.dot]
  have word : (Lexeme.next middle.current.after).token = .word method false := by
    rw [current, begins.property]
  have noArrow : ¬ isArrow (.identifier start.current.start.line object) = true := by simp [isArrow]
  rw [if_neg noArrow] at done
  obtain ⟨n, grown⟩ := grow_succ positive (subscript_property dot word)
  rw [subscripts, grown, growUpTo_none] at done
  · cases done
    refine ⟨rfl, ?_⟩
    change Lexeme.next (Lexeme.next middle.current.after).after = opening
    rw [current, begins.next]
  · refine subscript_opening ?_
    change (Lexeme.next (Lexeme.next middle.current.after).after).token = _
    rw [current, begins.next, begins.opening]

/-- No name, and no property of a name. -/
def isHigh : Node → Bool
  | .identifier .. => false
  | .member _ (.identifier ..) _ => false
  | .chain _ (.member _ (.identifier ..) _) => false
  | _ => true

theorem Extends.isHigh {value : Node} (h : Extends node value) (high : isHigh node = true) :
    isHigh value = true := by
  cases h with
  | plain accesses =>
    cases accesses with
    | member => cases node <;> first | rfl | cases high
    | _ => rfl
  | chain accesses =>
    cases accesses with
    | member => cases node <;> first | rfl | cases high
    | _ => rfl

theorem growUpTo_high {calls : Bool} {value : Node} {n : Nat} (high : isHigh node = true)
    (done : (growUpTo (subscript grammar calls) n node).run scope start = .done value state) :
    (value = node ∧ state = start) ∨ ∃ inner, isHigh inner = true ∧ Extends inner value := by
  induction n generalizing node start with
  | zero =>
    cases done
    exact .inl ⟨rfl, rfl⟩
  | succ n ih =>
    obtain ⟨found, middle, step, rest⟩ := run_bind done
    rcases run_subscript step with ⟨rfl, rfl⟩ | ⟨next, rfl, -, extends'⟩
    · cases rest
      exact .inl ⟨rfl, rfl⟩
    · rcases ih (extends'.isHigh high) rest with ⟨rfl, -⟩ | far
      · exact .inr ⟨node, high, extends'⟩
      · exact .inr far

def callOfProperty (object method : Text) (line : Nat) (items : List Node) : Node :=
  .call line (propertyOf object method line) items

theorem operand_begins {object : Text} {opening : Lexeme}
    (begins : Begins object method start.current opening) (positive : 0 < scope.budget)
    (done : (operand grammar arrows).run scope start = .done node state)
    (faultless : state.notes = []) :
    ∃ items before after, before.current = opening ∧
      (arguments grammar).run scope before = .done items after ∧ after.notes = [] ∧
      ((node = callOfProperty object method start.current.start.line items ∧
          state.current = after.current) ∨
        ∃ inner, isHigh inner = true ∧ Extends inner node) := by
  have plain : start.current.token.Plain := by
    rw [begins.name]
    exact .word begins.reference
  rw [run_operand arrows plain] at done
  obtain ⟨callee, before, built, done⟩ := run_bind done
  have faultless₁ := (reaches_of_done done).faultless_start faultless
  obtain ⟨rfl, opened⟩ := construction_begins begins positive built faultless₁
  have noArrow : ¬ isArrow (propertyOf object method start.current.start.line) = true := by
    simp [isArrow, propertyOf]
  rw [if_neg noArrow] at done
  have paren : before.current.token = .mark .parenOpen := by rw [opened, begins.opening]
  -- the parenthesis is current, so the first step of the loop is the call
  obtain ⟨n, budget⟩ := Nat.exists_eq_succ_of_ne_zero (Nat.pos_iff_ne_zero.1 positive)
  change (growUpTo _ scope.budget _).run scope before = _ at done
  rw [budget] at done
  obtain ⟨found, after, step, rest⟩ := run_bind done
  have faultless₂ := (reaches_of_done rest).faultless_start faultless
  unfold subscript at step
  dsimp only at step
  rw [run_token, paren] at step
  obtain ⟨value, rfl, called⟩ := run_some step
  obtain ⟨items, reached, listed, last⟩ := run_bind called
  cases last
  refine ⟨items, before, after, opened, listed, faultless₂, ?_⟩
  rcases growUpTo_high (by rfl) rest with ⟨rfl, rfl⟩ | far
  · exact .inl ⟨rfl, rfl⟩
  · exact .inr far

end Properties

end Parse

end MessageHarvest.Script
