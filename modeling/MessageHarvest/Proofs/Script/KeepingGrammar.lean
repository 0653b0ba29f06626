import MessageHarvest.Proofs.Script.Keeping
import MessageHarvest.Script.Module

namespace MessageHarvest.Script

open Parse

variable {ending : Ending}

class Grammar.Keeps (ending : Ending) (grammar : Grammar) : Prop where
  assignment : Parse.Keeps ending grammar.assignment
  unary : Parse.Keeps ending grammar.unary
  construction : Parse.Keeps ending grammar.construction
  binaryTail : ∀ left minimum, Parse.Keeps ending (grammar.binaryTail left minimum)

attribute [instance] Grammar.Keeps.assignment Grammar.Keeps.unary Grammar.Keeps.construction
  Grammar.Keeps.binaryTail

namespace Parse

section Names

instance : Closes ending nameText := by
  unfold nameText
  refine @Closes.token _ _ _ fun value => ?_
  split <;> infer_instance

instance (text : Text) (line : Nat) : Stays (checkIdentifier text line) := by
  unfold checkIdentifier
  dsimp only
  infer_instance

instance : Closes ending identifierText := by
  unfold identifierText
  refine @Closes.token _ _ _ fun value => ?_
  split <;> infer_instance

instance : Closes ending bindingIdentifier := by
  unfold bindingIdentifier
  dsimp only
  infer_instance

instance : Closes ending privateName := by
  unfold privateName
  refine @Closes.last _ _ _ _ _ fun hash => @Closes.last _ _ _ _ _ fun _ => ?_
  refine @Closes.token _ _ _ fun value => ?_
  split <;> infer_instance

end Names

section Functions

variable {grammar : Grammar}

theorem leads_statementListItem :
    Leads ending (fun _ => True) (statementListItem grammar) fun value lexeme =>
      value = none → lexeme.token = .mark .braceClose ∨ lexeme.token = .finish := by
  unfold statementListItem
  refine (leads_token _).bind fun value => ?_
  split
  · intro scope start value state done _ _ here _
    cases done
    exact .inl here.2
  · intro scope start value state done _ _ here _
    cases done
    exact .inr here.2
  · intro scope start value state done _ _ _ none
    obtain ⟨node, middle, -, last⟩ := run_bind done
    cases last
    cases none

instance : Closes ending (blockStatements grammar) where
  leads := by
    have ends : Leads ending (fun _ => True) (collect (statementListItem grammar))
        fun _ lexeme => lexeme.token = .mark .braceClose ∨ lexeme.token = .finish := by
      refine leads_collect (leads_statementListItem.weaken (fun _ => id) fun value lexeme h => ?_)
      exact ⟨h, fun _ => trivial⟩
    unfold blockStatements
    refine (leads_stands _).bind fun _ => Leads.bind
      ((ends.within _).weaken (fun _ _ => trivial) fun _ _ => id) fun statements => ?_
    have rest (token : Token) [Fact (token.isInner = true)] : ClosesAt ending token (do
        if ← atEnd then noteHere (.expected Mark.braceClose.spelling Token.finish.description)
        else advance
        return statements) := by
      dsimp only
      infer_instance
    rintro scope start value state done faultless stands (here | here)
    · exact (rest (.mark .braceClose)).leads scope start value state done faultless stands here
    · exact (rest .finish).leads scope start value state done faultless stands here

instance : Closes ending (block grammar) := by
  unfold block
  infer_instance

variable [Grammar.Keeps ending grammar]

instance (simple : Bool) : Closes ending (functionBlock grammar simple) := by
  unfold functionBlock
  dsimp only
  refine @Closes.last _ _ _ _ _ fun start => @Closes.bind _ _ _ _ _ _ fun statements => ?_
  split
  · infer_instance
  · split <;> infer_instance

instance (start : Nat) (shape : FunctionShape) (check : List BindingItem → Parse Unit) :
    Closes ending (functionTail grammar start shape check) := by
  unfold functionTail
  infer_instance

instance (isAsync simple : Bool) : Keeps ending (arrowBody grammar isAsync simple) := by
  unfold arrowBody
  infer_instance

instance (start : Nat) (isAsync named : Bool) :
    Closes ending (functionFromWord grammar start isAsync named) := by
  unfold functionFromWord
  dsimp only
  infer_instance

instance : Closes ending (classMembers grammar) := by
  unfold classMembers
  dsimp only
  infer_instance

instance (start : Nat) (named : Bool) : Closes ending (classFromWord grammar start named) := by
  unfold classFromWord
  dsimp only
  infer_instance

end Functions

section Collections

variable {grammar : Grammar} [Grammar.Keeps ending grammar]

instance : Keeps ending (spreadOrAssignment grammar) := by
  unfold spreadOrAssignment
  infer_instance

instance : Closes ending (arrayLiteral grammar) := by
  unfold arrayLiteral
  infer_instance

instance : Closes ending (objectLiteral grammar) := by
  unfold objectLiteral
  infer_instance

instance : Closes ending (arguments grammar) := by
  unfold arguments
  infer_instance

instance : Closes ending (recut Lexeme.templateChunk .templateChunk) where
  leads scope start value state done _ stands _ := by
    cases done
    exact Ending.early_templateChunk stands.covers.1

instance (tagged : Bool) (read : List (Option Text) × List Node × Bool) :
    Keeps ending (templateStep grammar tagged read) := by
  unfold templateStep
  split
  · infer_instance
  · refine @Keeps.token _ _ _ fun value => ?_
    split
    · dsimp only
      split
      · split <;> infer_instance
      · infer_instance
    · infer_instance

instance (tagged : Bool) : Keeps ending (template grammar tagged) := by
  unfold template
  infer_instance

end Collections

section Elements

variable {token : Token} [inner : Fact (token.isInner = true)]

instance : ClosesAt ending token advanceMarkup where
  leads scope start value state done _ stands here := by
    cases done
    have isInner : start.current.token.isInner = true := by rw [here, inner.out]
    exact Ending.early_markupLexeme (.clear (Ending.clear_after stands isInner))

instance (nested : Bool) : ClosesAt ending token (leaveTag nested) := by
  unfold leaveTag
  infer_instance

omit inner in
theorem leads_splitGreater {P : Lexeme → Prop} (later : ∀ lexeme, ending.Early lexeme → P lexeme) :
    Leads ending P splitGreater fun _ => P := by
  intro scope start value state done _ stands here
  change (if start.current.start.rest.head? = some '>' then
    Reply.done () (start.replace start.current.firstGreater) else .done () start) = _ at done
  split at done
  · rename_i greater
    cases done
    exact later _ (Ending.early_firstGreater stands.covers.1 greater)
  · cases done
    exact here

instance {p q : Bool → Parse Node} [∀ b, ClosesAt ending (.mark .greater) (p b)]
    [∀ b, Closes ending (q b)] : Closes ending (atGreater >>= fun b => if b = true then p b else q b) where
  leads := by
    refine Leads.choose (.mark .greater) ?_ (fun _ => ?_) fun _ => Closes.leads
    · exact (leads_splitGreater fun _ _ => trivial).bind fun _ => leads_at? _ .greater
    · exact ClosesAt.leads.weaken (fun _ => And.right) fun _ _ => id

theorem leads_expectGreater :
    Leads ending (fun _ => True) expectGreater fun _ lexeme => lexeme.token = .mark .greater := by
  unfold expectGreater
  refine Leads.choose (.mark .greater) ?_ (fun _ => ?_) fun _ => ?_
  · exact (leads_splitGreater fun _ _ => trivial).bind fun _ => leads_at? _ .greater
  · exact (leads_of_stays _ _).weaken (fun _ => And.right) fun _ _ => id
  · intro scope start value state done faultless
    exact absurd faultless (Faulty.notes scope start value state done)

instance {next : Unit → Parse α} [∀ value, ClosesAt ending (.mark .greater) (next value)] :
    Closes ending (expectGreater >>= next) :=
  ⟨leads_expectGreater.bind fun _ => ClosesAt.leads⟩

variable {grammar : Grammar}

instance (nested : Bool) (start : Nat) : Closes ending (fragment grammar nested start) := by
  unfold fragment
  refine @Closes.last _ _ _ _ _ fun _ => @Closes.last _ _ _ _ _ fun nodes =>
    @Closes.last _ _ _ _ _ fun _ => ?_
  infer_instance

instance (nested : Bool) (name : Text) : Closes ending (closingTag nested name) := by
  unfold closingTag
  infer_instance

instance (nested : Bool) : Closes ending (markup grammar nested) := by
  unfold markup
  refine @Closes.last _ _ _ _ _ fun start => @Closes.last _ _ _ _ _ fun _ =>
    @Closes.last _ _ _ _ _ fun fragments => ?_
  split
  · infer_instance
  · refine @Closes.last _ _ _ _ _ fun name => @Closes.last _ _ _ _ _ fun attributes =>
      @Closes.last _ _ _ _ _ fun slash => ?_
    split
    · infer_instance
    · refine @Closes.last _ _ _ _ _ fun _ => @Closes.last _ _ _ _ _ fun _ =>
        @Closes.last _ _ _ _ _ fun nodes => ?_
      infer_instance

end Elements

end Parse

end MessageHarvest.Script
