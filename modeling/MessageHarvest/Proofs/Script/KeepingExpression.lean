import MessageHarvest.Proofs.Script.KeepingGrammar

namespace MessageHarvest.Script

open Parse

set_option synthInstance.maxSize 10000

variable {ending : Ending}

namespace Parse

section Targets

instance (comma : Option Nat) : Stays (noteComma comma) := by
  cases comma <;> unfold noteComma <;> infer_instance

instance (line : Nat) (node : Node) : Stays (noteRestDefault line node) := by
  unfold noteRestDefault
  split <;> infer_instance

instance (node : Node) : Stays (checkPlainElement node) := by
  unfold checkPlainElement
  infer_instance

instance (node : Node) : Stays (checkParameterName node) := by
  unfold checkParameterName
  split <;> infer_instance

instance (place : PatternPlace) (name : Node) : Stays (checkShorthand place name) := by
  unfold checkShorthand
  split <;> infer_instance

mutual

theorem stays_checkPattern (place : PatternPlace) (node : Node) : Stays (checkPattern place node) := by
  unfold checkPattern
  split
  · exact stays_checkElements ..
  · exact stays_checkProperties ..
  · split
    · infer_instance
    · exact stays_checkPattern ..
  · split <;> infer_instance
termination_by sizeOf node

theorem stays_checkElements (place : PatternPlace) (comma : Option Nat) (nodes : List Node) :
    Stays (checkElements place comma nodes) := by
  unfold checkElements
  split
  · infer_instance
  · exact stays_checkElements ..
  · rename_i line argument nodes
    have rest := stays_checkPattern place argument
    have others := stays_checkElements place comma nodes
    infer_instance
  · rename_i node nodes _ _
    have first := stays_checkPattern place node
    have others := stays_checkElements place comma nodes
    infer_instance
termination_by sizeOf nodes

theorem stays_checkProperties (place : PatternPlace) (comma : Option Nat) (nodes : List Node) :
    Stays (checkProperties place comma nodes) := by
  unfold checkProperties
  split
  · infer_instance
  · rename_i line argument nodes
    have rest := stays_checkPattern place argument
    have others := stays_checkProperties place comma nodes
    infer_instance
  · rename_i line key value nodes
    have first := stays_checkPattern place value
    have others := stays_checkProperties place comma nodes
    infer_instance
  · rename_i line name nodes
    have others := stays_checkProperties place comma nodes
    infer_instance
  · rename_i line name value nodes
    have others := stays_checkProperties place comma nodes
    infer_instance
  · infer_instance
termination_by sizeOf nodes

end

instance (place : PatternPlace) (node : Node) : Stays (checkPattern place node) :=
  stays_checkPattern place node

instance (node : Node) : Stays (checkTarget node) := by
  unfold checkTarget
  split
  all_goals infer_instance

instance (node : Node) : Stays (checkCompoundTarget node) := by
  unfold checkCompoundTarget
  infer_instance

instance (node : Node) : Stays (checkUpdated node) := by
  unfold checkUpdated
  infer_instance

instance (comma : Option Nat) (nodes : List Node) : Stays (checkParameters comma nodes) := by
  fun_induction checkParameters comma nodes with
  | case1 => infer_instance
  | case2 line argument => infer_instance
  | case3 line argument nodes last ih => infer_instance
  | case4 node nodes rest spread ih => infer_instance

instance (nodes : List Node) : Stays (noteShorthandDefaults nodes) := by
  fun_induction noteShorthandDefaults nodes with
  | case1 => infer_instance
  | case2 line name value nodes ih => infer_instance
  | case3 node nodes other ih => exact ih

instance (nodes : List Node) : Stays (noteObjectDefaults nodes) := by
  fun_induction noteObjectDefaults nodes with
  | case1 => infer_instance
  | case2 line properties comma nodes ih => infer_instance
  | case3 node nodes other ih => exact ih

instance (nodes : List Node) : Stays (failOnSpread nodes) := by
  fun_induction failOnSpread nodes with
  | case1 => infer_instance
  | case2 line argument nodes => infer_instance
  | case3 node nodes other ih => exact ih

instance (kind : OperatorKind) (left right : Node) : Stays (noteMixedNullish kind left right) := by
  unfold noteMixedNullish
  dsimp only
  infer_instance

end Targets

section Operands

variable {build : Nat → Node}

instance (value : Option Text) : KeepsAt ending (.string value) (literal build) := by
  unfold literal
  infer_instance

instance (here : Token) [Fact (here.isInner = true)] : ClosesAt ending here (literal build) := by
  unfold literal
  infer_instance

instance (reports : List Report) : Stays (reports.forM record) := by
  induction reports with
  | nil => exact inferInstanceAs (Stays (pure ()))
  | cons report reports ih => exact inferInstanceAs (Stays (record report >>= fun _ => reports.forM record))

theorem leads_afterRegexp {start : Cursor} {notes : List Report} {after : Cursor}
    (literal : RegexpReading.ofCursor start = .literal notes after) :
    Leads ending (fun lexeme => lexeme.start = start)
      (advanceTo Lexeme.afterRegexp .afterRegexp) fun _ => ending.Early := by
  rintro scope first value state done faultless stands rfl
  cases done
  obtain ⟨cut, -⟩ := List.append_eq_nil_iff.1 faultless
  exact Ending.early_afterRegexp stands.covers.1 literal (List.reverse_eq_nil_iff.1 cut)

instance : Closes ending regexpLiteral where
  leads := by
    have placed : Leads ending (fun _ => True) current fun lexeme here => here.start = lexeme.start := by
      intro scope first value state done _ _ _
      cases done
      rfl
    unfold regexpLiteral
    refine placed.bind fun lexeme => ?_
    dsimp only
    split
    · rename_i notes after reading
      exact (leads_afterRegexp reading).bind fun _ => Keeps.leads
    · exact Closes.leads.weaken (fun _ _ => trivial) fun _ _ => id

variable {grammar : Grammar} [Grammar.Keeps ending grammar]

instance (start : Nat) (isAsync : Bool) (comma : Option Nat) (items : List Node) :
    Closes ending (arrowFrom grammar start isAsync comma items) := by
  unfold arrowFrom
  infer_instance

instance (arrows : Bool) (caller : Option Nat) : Closes ending (parentheses grammar arrows caller) := by
  unfold parentheses
  refine @Closes.last _ _ _ _ _ fun start => @Closes.last _ _ _ _ _ fun _ =>
    @Closes.last _ _ _ _ _ fun listed => @Closes.bind _ _ _ _ _ _ fun _ => ?_
  dsimp only
  refine @Keeps.bind _ _ _ _ _ _ fun arrow => ?_
  split
  · infer_instance
  · refine @Keeps.bind _ _ _ _ _ _ fun _ => ?_
    split
    · infer_instance
    · refine @Keeps.bind _ _ _ _ _ _ fun _ => ?_
      split <;> infer_instance

instance : Stays identifierExpression.atReference := by
  unfold identifierExpression.atReference
  refine @Stays.bind _ _ _ _ _ fun value => ?_
  split <;> infer_instance

instance : Stays identifierExpression.atLoopTarget := by
  unfold identifierExpression.atLoopTarget
  infer_instance

instance (arrows : Bool) (text : Text) (here : Token) [Fact (here.isInner = true)] :
    ClosesAt ending here (identifierExpression grammar arrows text) := by
  unfold identifierExpression
  dsimp only
  infer_instance

instance : Stays asyncFunctionFollows := by
  unfold asyncFunctionFollows
  infer_instance

instance (arrows : Bool) (text : Text) (escaped : Bool) :
    KeepsAt ending (.word text escaped) (wordExpression grammar arrows text escaped) := by
  unfold wordExpression
  infer_instance

instance (arrows : Bool) : Keeps ending (primary grammar arrows) := by
  unfold primary
  refine @Keeps.bind _ _ _ _ _ _ fun start => @Keeps.token _ _ _ fun value => ?_
  split <;> infer_instance

end Operands

section Accesses

variable {grammar : Grammar} [Grammar.Keeps ending grammar]

instance (node : Node) (optional : Bool) : Closes ending (propertyAccess node optional) := by
  unfold propertyAccess
  infer_instance

instance (node : Node) (optional : Bool) : Closes ending (computedAccess grammar node optional) := by
  unfold computedAccess
  infer_instance

instance (node : Node) (optional : Bool) : Closes ending (callOf grammar node optional) := by
  unfold callOf
  infer_instance

instance (calls : Bool) (node : Node) : Keeps ending (subscript grammar calls node) := by
  unfold subscript
  dsimp only
  refine @Keeps.token _ _ _ fun value => ?_
  split <;> infer_instance

instance (calls : Bool) (node : Node) : Keeps ending (subscripts grammar calls node) := by
  unfold subscripts
  infer_instance

instance (calls : Bool) (start : Nat) : Keeps ending (superExpression.access grammar calls start) := by
  unfold superExpression.access
  infer_instance

instance (calls : Bool) (here : Token) [Fact (here.isInner = true)] :
    ClosesAt ending here (superExpression grammar calls) := by
  unfold superExpression
  refine @ClosesAt.after _ _ _ _ _ _ _ fun start => @ClosesAt.bind _ _ _ _ _ _ _ fun _ =>
    @Keeps.token _ _ _ fun value => ?_
  split <;> infer_instance

instance (calls : Bool) (here : Token) [Fact (here.isInner = true)] :
    ClosesAt ending here (importExpression grammar calls) := by
  unfold importExpression
  infer_instance

instance (start : Nat) : Closes ending (newTarget grammar start) := by
  unfold newTarget
  infer_instance

instance (here : Token) [Fact (here.isInner = true)] :
    ClosesAt ending here (newExpression grammar) := by
  unfold newExpression
  infer_instance

instance (arrows : Bool) : Keeps ending (construction grammar arrows) := by
  unfold construction
  infer_instance

instance : Stays atMarkup := by
  unfold atMarkup
  infer_instance

instance (arrows : Bool) : Keeps ending (operand grammar arrows) := by
  unfold operand
  infer_instance

end Accesses

section Operators

variable {grammar : Grammar} [Grammar.Keeps ending grammar]

instance (here : Token) [Fact (here.isInner = true)] :
    ClosesAt ending here (unaryOperation grammar) := by
  unfold unaryOperation
  infer_instance

instance (here : Token) [Fact (here.isInner = true)] :
    ClosesAt ending here (prefixUpdate grammar) := by
  unfold prefixUpdate
  infer_instance

instance (here : Token) [Fact (here.isInner = true)] :
    ClosesAt ending here (awaitExpression grammar) := by
  unfold awaitExpression
  dsimp only
  infer_instance

theorem leads_of_inner {parser : Parse α}
    (h : ∀ here [Fact (Token.isInner here = true)], ClosesAt ending here parser) :
    Leads ending (fun lexeme => lexeme.token.isInner = true) parser fun _ => ending.Early := by
  intro scope start value state done faultless stands inner
  have closes := @h start.current.token ⟨inner⟩
  exact closes.leads scope start value state done faultless stands rfl

instance (arrows : Bool) : Keeps ending (postfixUpdate grammar arrows) := by
  unfold postfixUpdate
  refine @Keeps.bind _ _ _ _ _ _ fun node => ?_
  split
  · infer_instance
  · refine @Keeps.bind _ _ _ _ _ _ fun newline => ?_
    split
    · infer_instance
    · refine ⟨(leads_at? _ .increment).bind fun up => (leads_at? _ .decrement).bind fun down => ?_⟩
      split
      · rename_i either
        refine (leads_of_inner fun here inner => inferInstance).weaken (fun lexeme h => ?_) fun _ _ => id
        rcases Bool.or_eq_true_iff.1 either with hup | hdown
        · rw [h.1.2 hup]
        · rw [h.2 hdown]
      · exact Keeps.leads.weaken (fun _ h => h.1.1) fun _ _ => id

theorem leads_atUnaryWord :
    Leads ending ending.Early atUnaryWord fun found lexeme =>
      ending.Early lexeme ∧ (found = true → lexeme.token.isInner = true) := by
  unfold atUnaryWord
  refine (leads_atWord _ "delete".toList).bind fun deletes => ?_
  refine (leads_atWord _ "void".toList).bind fun voids => ?_
  refine (leads_atWord _ "typeof".toList).bind fun types => ?_
  intro scope start value state done _ _ here
  cases done
  refine ⟨here.1.1.1, fun found => ?_⟩
  rw [Bool.or_eq_true, Bool.or_eq_true] at found
  rcases found with (found | found) | found
  · rw [here.1.1.2 found]
  · rw [here.1.2 found]
  · rw [here.2 found]

instance (arrows : Bool) : Keeps ending (unary grammar arrows) := by
  unfold unary
  refine @Keeps.token _ _ _ fun value => ?_
  split
  case h_7 =>
    refine ⟨Leads.bind (leads_atUnaryWord.weaken (fun _ => And.left) fun _ _ => id) fun found => ?_⟩
    split
    · rename_i found
      refine (leads_of_inner fun here inner => inferInstance).weaken (fun _ h => h.2 found) fun _ _ => id
    · exact Keeps.leads.weaken (fun _ => And.left) fun _ _ => id
  all_goals infer_instance

theorem inner_of_precedence? {mark : Mark} {precedence : Nat}
    (h : mark.precedence? = some precedence) : mark.isInner = true := by
  cases mark with
  | comma => cases h
  | _ => rfl

theorem inner_of_isAssignment {mark : Mark} (h : mark.isAssignment = true) : mark.isInner = true := by
  cases mark with
  | comma => cases h
  | _ => rfl

theorem leads_operator? (P : Lexeme → Prop) :
    Leads ending P operator? fun found lexeme =>
      P lexeme ∧ (found ≠ none → lexeme.token.isInner = true) := by
  unfold operator?
  refine (leads_token P).bind fun value => ?_
  split
  · split
    · rename_i mark precedence ranks
      refine (leads_of_stays _ _).weaken (fun _ => id) fun found lexeme here => ⟨here.1, fun _ => ?_⟩
      rw [here.2]
      exact inner_of_precedence? ranks
    · intro scope start value state done _ _ here
      cases done
      exact ⟨here.1, by simp⟩
  · refine (leads_of_stays _ _).weaken (fun _ => id) fun found lexeme here => ⟨here.1, fun _ => ?_⟩
    rw [here.2]
  · intro scope start value state done _ _ here
    cases done
    exact ⟨here.1, by simp⟩

instance (minimum : Nat) (left : Node) : Keeps ending (binaryStep grammar minimum left) := by
  unfold binaryStep
  refine ⟨(leads_operator? _).bind fun found => ?_⟩
  split
  · exact Keeps.leads.weaken (fun _ => And.left) fun _ _ => id
  · split
    · exact Keeps.leads.weaken (fun _ => And.left) fun _ _ => id
    · refine (leads_of_inner fun here inner => ?_).weaken (fun _ h => h.2 nofun) fun _ _ => id
      dsimp only
      infer_instance

instance (left : Node) (minimum : Nat) : Keeps ending (binaryTail grammar left minimum) := by
  unfold binaryTail
  infer_instance

instance (arrows : Bool) : Keeps ending (firstOperand grammar arrows) := by
  unfold firstOperand
  refine @Keeps.bind _ _ _ _ _ _ fun start => @Keeps.attempt _ _ _ _ _ _ (fun node => ?_) fun report => ?_
  · infer_instance
  · refine @Closes.last _ _ _ _ _ fun value => ?_
    split
    · infer_instance
    · refine @Closes.last _ _ _ _ _ fun found => ?_
      split <;> infer_instance

instance (arrows : Bool) : Keeps ending (binary grammar arrows) := by
  unfold binary
  infer_instance

instance (arrows : Bool) : Keeps ending (conditional grammar arrows) := by
  unfold conditional
  infer_instance

instance (here : Token) [Fact (here.isInner = true)] :
    ClosesAt ending here (yieldExpression grammar) := by
  unfold yieldExpression
  dsimp only
  infer_instance

instance : Keeps ending (assignment grammar) := by
  unfold assignment
  dsimp only
  refine @Keeps.bind _ _ _ _ _ _ fun place => ?_
  refine ⟨(leads_atWord _ "yield".toList).bind fun yields => ?_⟩
  split
  · rename_i generates
    have closes : ClosesAt ending (.word "yield".toList false) (yieldExpression grammar) :=
      inferInstance
    refine closes.leads.weaken (fun _ h => h.2 ?_) fun _ _ => id
    rw [Bool.and_eq_true] at generates
    exact generates.2
  · refine (@Keeps.leads _ _ _ ?_).weaken (fun _ => And.left) fun _ _ => id
    refine @Keeps.bind _ _ _ _ _ _ fun left => ?_
    split
    · infer_instance
    · refine @Keeps.token _ _ _ fun value => ?_
      split
      · rename_i mark
        split
        · rename_i assigns
          have inner : Fact (mark.isInner = true) := ⟨inner_of_isAssignment assigns⟩
          infer_instance
        · infer_instance
      · infer_instance

end Operators

end Parse

namespace Grammar

instance : Grammar.Keeps ending unbound where
  assignment := inferInstanceAs (Parse.Keeps ending default)
  unary := inferInstanceAs (Parse.Keeps ending default)
  construction := inferInstanceAs (Parse.Keeps ending default)
  binaryTail _ _ := inferInstanceAs (Parse.Keeps ending default)

instance (grammar : Grammar) [Grammar.Keeps ending grammar] : Grammar.Keeps ending (step grammar) where
  assignment := inferInstanceAs (Parse.Keeps ending (Parse.assignment grammar))
  unary := inferInstanceAs (Parse.Keeps ending (Parse.unary grammar false))
  construction := inferInstanceAs (Parse.Keeps ending (Parse.construction grammar false))
  binaryTail left minimum := inferInstanceAs (Parse.Keeps ending (Parse.binaryTail grammar left minimum))

instance keeps_level (n : Nat) : Grammar.Keeps ending (level n) := by
  induction n with
  | zero => exact inferInstanceAs (Grammar.Keeps ending unbound)
  | succ n ih => exact inferInstanceAs (Grammar.Keeps ending (step (level n)))

end Grammar

end MessageHarvest.Script
