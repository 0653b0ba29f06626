import MessageHarvest.Proofs.Script.Naming
import MessageHarvest.Script.Markup

namespace MessageHarvest.Script

open Parse

set_option synthInstance.maxSize 10000

class Grammar.Names (grammar : Grammar) : Prop where
  expression : Makes Named grammar.expression
  assignment : Makes Named grammar.assignment
  unary : Makes Named grammar.unary
  operand : Makes Named grammar.operand
  construction : Makes Named grammar.construction
  binaryTail : ∀ (left : Node) (minimum : Nat) [Fact (Named left)],
    Makes Named (grammar.binaryTail left minimum)
  binding : Makes Named grammar.binding
  statement : ∀ declarations, Makes Named (grammar.statement declarations)
  markup : ∀ nested, Makes Named (grammar.markup nested)

attribute [instance] Grammar.Names.expression Grammar.Names.assignment Grammar.Names.unary
  Grammar.Names.operand Grammar.Names.construction Grammar.Names.binaryTail Grammar.Names.binding
  Grammar.Names.statement Grammar.Names.markup

namespace Parse

section Words

instance : Makes Named nameText := by
  unfold nameText
  refine Makes.given fun value named => ?_
  split <;> infer_instance

instance : Makes Named identifierText := by
  unfold identifierText
  refine Makes.given fun value named => ?_
  split <;> infer_instance

instance : Makes Named bindingIdentifier := by
  unfold bindingIdentifier
  dsimp only
  infer_instance

end Words

variable {grammar : Grammar} [Grammar.Names grammar]

section Bindings

instance : Makes Named (key grammar) := by
  unfold key
  refine Makes.given fun value named => ?_
  split <;> infer_instance

instance : Makes Named (defaultValue grammar) := by
  unfold defaultValue
  infer_instance

instance (line : Nat) (target : Node) (value : Option Node) [Fact (Named target)]
    [held : Fact (Named value)] : Fact (Named (withDefault line target value)) := by
  cases value with
  | none => exact inferInstanceAs (Fact (Named target))
  | some value =>
    have value_named : Fact (Named value) := ⟨held.out value rfl⟩
    exact inferInstanceAs (Fact (Named (Node.defaultPattern line target value)))

instance : Makes Named (bindingElement grammar) := by
  unfold bindingElement
  infer_instance

instance : Makes Named (arrayBindingItem grammar) := by
  unfold arrayBindingItem
  dsimp only
  infer_instance

instance : Makes Named (arrayBinding grammar) := by
  unfold arrayBinding
  infer_instance

instance : Makes Named (objectBindingProperty grammar) := by
  unfold objectBindingProperty
  refine Makes.past fun start => Makes.past fun spreads => ?_
  split
  · infer_instance
  · refine Makes.given fun name named => Makes.past fun colon => ?_
    split
    · infer_instance
    · split
      · refine Makes.given fun found named' => ?_
        split
        · rename_i value
          have value_named : Fact (Named value) := ⟨named'.out value rfl⟩
          infer_instance
        · infer_instance
      · infer_instance

instance : Makes Named (objectBindingItem grammar) := by
  unfold objectBindingItem
  infer_instance

instance : Makes Named (objectBinding grammar) := by
  unfold objectBinding
  infer_instance

instance : Makes Named (bindingTarget grammar) := by
  unfold bindingTarget
  refine Makes.past fun value => ?_
  split <;> infer_instance

instance : Makes Named (lexicalTarget grammar) := by
  unfold lexicalTarget
  infer_instance

end Bindings

section Functions

instance : Makes Named (statementListItem grammar) := by
  unfold statementListItem
  refine Makes.past fun value => ?_
  split <;> infer_instance

instance : Makes Named (blockStatements grammar) := by
  unfold blockStatements
  dsimp only
  infer_instance

instance : Makes Named (block grammar) := by
  unfold block
  infer_instance

instance (simple : Bool) : Makes Named (functionBlock grammar simple) := by
  unfold functionBlock
  refine Makes.past fun start => Makes.given fun statements named => ?_
  dsimp only
  split
  · infer_instance
  · split <;> infer_instance

instance : Makes Named (parameter grammar) := by
  unfold parameter
  infer_instance

instance : Makes Named (parameters grammar) := by
  unfold parameters
  infer_instance

instance (start : Nat) (shape : FunctionShape) (check : List BindingItem → Parse Unit) :
    Makes Named (functionTail grammar start shape check) := by
  unfold functionTail
  infer_instance

instance (isAsync simple : Bool) : Makes Named (arrowBody grammar isAsync simple) := by
  unfold arrowBody
  infer_instance

instance (start : Nat) (isAsync named : Bool) :
    Makes Named (functionFromWord grammar start isAsync named) := by
  unfold functionFromWord
  infer_instance

end Functions

section Classes

instance : Makes Named (memberKey grammar) := by
  unfold memberKey
  infer_instance

variable {name : Key} [Fact (Named name)]

instance (start : Nat) (isAsync isGenerator : Bool) (check : List BindingItem → Parse Unit) :
    Makes Named (finishMethod grammar start name isAsync isGenerator check) := by
  unfold finishMethod
  infer_instance

instance (start nameLine : Nat) : Makes Named (finishProperty grammar start nameLine name) := by
  unfold finishProperty
  dsimp only
  infer_instance

instance (start : Nat) : Makes Named (staticBlock grammar start) := by
  unfold staticBlock
  infer_instance

instance (start : Nat) (isStatic isAsync : Bool) :
    Makes Named (generatorMethod grammar start isStatic isAsync) := by
  unfold generatorMethod
  infer_instance

instance (start : Nat) (isStatic : Bool) : Makes Named (asyncMethod grammar start isStatic) := by
  unfold asyncMethod
  infer_instance

instance (start accessorLine : Nat) (isStatic isGetter : Bool) :
    Makes Named (accessorMethod grammar start accessorLine isStatic isGetter) := by
  unfold accessorMethod
  infer_instance

instance (start : Nat) (isStatic : Bool) : Makes Named (namedMember grammar start isStatic) := by
  unfold namedMember
  infer_instance

instance (start : Nat) (isStatic : Bool) : Makes Named (modifiedMember grammar start isStatic) := by
  unfold modifiedMember
  infer_instance

instance : Makes Named (member grammar) := by
  have static : Fact (Named (Key.plain "static".toList)) := ⟨List.cons_ne_nil _ _⟩
  unfold member
  refine Makes.past fun start => Makes.past fun value => ?_
  split <;> infer_instance

instance : Makes Named (classMembers grammar) := by
  unfold classMembers
  infer_instance

instance (start : Nat) (named : Bool) : Makes Named (classFromWord grammar start named) := by
  unfold classFromWord
  dsimp only
  infer_instance

end Classes

section Collections

instance : Makes Named (spreadOrAssignment grammar) := by
  unfold spreadOrAssignment
  infer_instance

instance : Makes Named (arrayItem grammar) := by
  unfold arrayItem
  infer_instance

instance : Makes Named (arrayLiteral grammar) := by
  unfold arrayLiteral
  infer_instance

section Properties

variable {name : Key} [Fact (Named name)]

instance (start : Nat) (isAsync isGenerator : Bool) (check : List BindingItem → Parse Unit) :
    Makes Named (methodProperty grammar start name isAsync isGenerator check) := by
  unfold methodProperty
  infer_instance

end Properties

instance (start : Nat) (name : Text) [Fact (Named name)] :
    Makes Named (shorthandProperty grammar start name) := by
  unfold shorthandProperty
  dsimp only
  infer_instance

instance (start : Nat) (modifier : Text) : Makes Named (modifiedProperty grammar start modifier) := by
  unfold modifiedProperty
  infer_instance

instance : Makes Named (property grammar) := by
  unfold property
  refine Makes.past fun start => Makes.past fun spreads => ?_
  split
  · infer_instance
  · refine Makes.past fun generates => ?_
    split
    · infer_instance
    · refine Makes.given fun name named => Makes.past fun value => ?_
      split
      · infer_instance
      · infer_instance
      · split <;> infer_instance

instance : Makes Named (objectItem grammar) := by
  unfold objectItem
  infer_instance

instance : Makes Named (objectLiteral grammar) := by
  unfold objectLiteral
  infer_instance

instance : Makes Named (argument grammar) := by
  unfold argument
  infer_instance

instance : Makes Named (arguments grammar) := by
  unfold arguments
  infer_instance

instance (tagged : Bool) (read : List (Option Text) × List Node × Bool) [named : Fact (Named read)] :
    Makes Named (templateStep grammar tagged read) := by
  unfold templateStep
  split
  · infer_instance
  · rename_i pieces nodes
    have nodes_named : Fact (Named nodes) := named
    refine Makes.past fun value => ?_
    split
    · dsimp only
      split
      · split <;> infer_instance
      · infer_instance
    · infer_instance

instance (tagged : Bool) : Makes Named (template grammar tagged) := by
  unfold template
  refine Makes.past fun start => Makes.given fun read named => ?_
  obtain ⟨pieces, nodes, closed⟩ := read
  have nodes_named : Fact (Named nodes) := named
  infer_instance

end Collections

section Elements

instance : Makes Named (attributeValue grammar) := by
  unfold attributeValue
  refine Makes.past fun start => Makes.past fun value => ?_
  split <;> infer_instance

instance : Makes Named (tagAttribute grammar) := by
  unfold tagAttribute
  refine Makes.past fun start => Makes.past fun ends => ?_
  split
  · infer_instance
  · refine Makes.past fun value => ?_
    split <;> infer_instance

instance : Makes Named (childExpression grammar) := by
  unfold childExpression
  dsimp only
  infer_instance

instance : Makes Named (childOnce grammar) := by
  unfold childOnce
  refine Makes.past fun value => ?_
  split <;> infer_instance

instance : Makes Named (child grammar) := by
  unfold child
  refine Makes.given fun outcome named => ?_
  split
  · rename_i nodes
    exact ⟨fun scope start value state done here => by
      cases done
      exact named.out nodes rfl⟩
  · infer_instance

instance : Makes Named (children grammar) := by
  unfold children
  infer_instance

instance (nested : Bool) (start : Nat) : Makes Named (fragment grammar nested start) := by
  unfold fragment
  infer_instance

instance (nested : Bool) : Makes Named (markup grammar nested) := by
  unfold markup
  infer_instance

end Elements

end Parse

end MessageHarvest.Script
