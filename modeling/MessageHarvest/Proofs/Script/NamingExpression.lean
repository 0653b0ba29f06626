import MessageHarvest.Proofs.Script.NamingGrammar
import MessageHarvest.Script.Expression

namespace MessageHarvest.Script

open Parse

set_option synthInstance.maxSize 10000

namespace Parse

variable {grammar : Grammar} [Grammar.Names grammar]

section Operands

instance (build : Nat → Node) [∀ line, Fact (Named (build line))] : Makes Named (literal build) := by
  unfold literal
  infer_instance

instance : Makes Named regexpLiteral := by
  unfold regexpLiteral
  refine Makes.past fun lexeme => ?_
  dsimp only
  split <;> infer_instance

instance (start : Nat) (isAsync : Bool) (comma : Option Nat) (items : List Node)
    [Fact (Named items)] : Makes Named (arrowFrom grammar start isAsync comma items) := by
  unfold arrowFrom
  infer_instance

instance : Makes Named (parenthesizedItem grammar) := by
  unfold parenthesizedItem
  dsimp only
  infer_instance

instance (arrows : Bool) (caller : Option Nat) : Makes Named (parentheses grammar arrows caller) := by
  have async : Fact (Named "async".toList) := ⟨List.cons_ne_nil _ _⟩
  unfold parentheses
  refine Makes.past fun start => Makes.past fun _ => Makes.given fun listed named => Makes.past fun _ => ?_
  have items_named : Fact (Named (listed.flatMap (·.1))) := inferInstance
  dsimp only
  generalize listed.flatMap (·.1) = items at items_named ⊢
  refine Makes.past fun arrow => ?_
  split
  · infer_instance
  · refine Makes.past fun _ => ?_
    split
    · infer_instance
    · refine Makes.past fun _ => ?_
      split
      · infer_instance
      · rename_i item
        have item_named : Fact (Named item) := ⟨items_named.out item (List.mem_singleton_self item)⟩
        infer_instance
      · infer_instance

instance (arrows : Bool) (text : Text) [Fact (Named text)] :
    Makes Named (identifierExpression grammar arrows text) := by
  unfold identifierExpression
  dsimp only
  infer_instance

instance (arrows : Bool) (text : Text) (escaped : Bool) [Fact (Named text)] :
    Makes Named (wordExpression grammar arrows text escaped) := by
  unfold wordExpression
  infer_instance

instance (arrows : Bool) : Makes Named (primary grammar arrows) := by
  unfold primary
  refine Makes.past fun start => Makes.given fun value named => ?_
  split <;> infer_instance

end Operands

section Accesses

variable {node : Node} [Fact (Named node)]

instance (optional : Bool) (base : Node) [held : Fact (Named base)] :
    Fact (Named (chained optional base)) := by
  cases optional with
  | false => exact held
  | true => exact inferInstanceAs (Fact (Named (Node.chain base.line base)))

instance (optional : Bool) : Makes Named (propertyAccess node optional) := by
  unfold propertyAccess
  infer_instance

instance (optional : Bool) : Makes Named (computedAccess grammar node optional) := by
  unfold computedAccess
  infer_instance

instance (optional : Bool) : Makes Named (callOf grammar node optional) := by
  unfold callOf
  infer_instance

instance (calls : Bool) : Makes Named (subscript grammar calls node) := by
  unfold subscript
  dsimp only
  refine Makes.past fun value => ?_
  split <;> infer_instance

instance (calls : Bool) : Makes Named (subscripts grammar calls node) := by
  unfold subscripts
  infer_instance

instance (calls : Bool) (start : Nat) : Makes Named (superExpression.access grammar calls start) := by
  unfold superExpression.access
  infer_instance

instance (calls : Bool) : Makes Named (superExpression grammar calls) := by
  unfold superExpression
  refine Makes.past fun start => Makes.past fun _ => Makes.past fun value => ?_
  split <;> infer_instance

instance (calls : Bool) : Makes Named (importExpression grammar calls) := by
  unfold importExpression
  infer_instance

instance (start : Nat) : Makes Named (newTarget grammar start) := by
  unfold newTarget
  infer_instance

instance : Makes Named (newExpression grammar) := by
  unfold newExpression
  infer_instance

instance (arrows : Bool) : Makes Named (construction grammar arrows) := by
  unfold construction
  infer_instance

instance (arrows : Bool) : Makes Named (operand grammar arrows) := by
  unfold operand
  infer_instance

end Accesses

section Operators

instance : Makes Named (unaryOperation grammar) := by
  unfold unaryOperation
  refine Makes.past fun start => Makes.past fun deletes => Makes.past fun _ =>
    Makes.given fun outcome named => ?_
  split
  · infer_instance
  · rename_i node
    have node_named : Fact (Named node) := ⟨named.out node rfl⟩
    dsimp only
    infer_instance

instance : Makes Named (prefixUpdate grammar) := by
  unfold prefixUpdate
  infer_instance

instance : Makes Named (awaitExpression grammar) := by
  have await : Fact (Named "await".toList) := ⟨List.cons_ne_nil _ _⟩
  unfold awaitExpression
  dsimp only
  infer_instance

instance (arrows : Bool) : Makes Named (postfixUpdate grammar arrows) := by
  unfold postfixUpdate
  infer_instance

instance (arrows : Bool) : Makes Named (unary grammar arrows) := by
  unfold unary
  refine Makes.past fun value => ?_
  split <;> infer_instance

instance (minimum : Nat) (left : Node) [Fact (Named left)] :
    Makes Named (binaryStep grammar minimum left) := by
  unfold binaryStep
  refine Makes.past fun operator => ?_
  split
  · infer_instance
  · dsimp only
    infer_instance

instance (left : Node) (minimum : Nat) [Fact (Named left)] :
    Makes Named (binaryTail grammar left minimum) := by
  unfold binaryTail
  infer_instance

instance (arrows : Bool) : Makes Named (firstOperand grammar arrows) := by
  unfold firstOperand
  refine Makes.past fun start => Makes.given fun outcome named => ?_
  split
  · rename_i node
    have node_named : Fact (Named node) := ⟨named.out node rfl⟩
    infer_instance
  · refine Makes.past fun value => ?_
    split
    · infer_instance
    · refine Makes.past fun found => ?_
      split <;> infer_instance

instance (arrows : Bool) : Makes Named (binary grammar arrows) := by
  unfold binary
  infer_instance

instance (arrows : Bool) : Makes Named (conditional grammar arrows) := by
  unfold conditional
  infer_instance

instance : Makes Named (yieldExpression grammar) := by
  unfold yieldExpression
  dsimp only
  infer_instance

instance : Makes Named (assignment grammar) := by
  unfold assignment
  refine Makes.past fun place => Makes.past fun yields => ?_
  split
  · infer_instance
  · refine Makes.given fun left named => ?_
    split
    · infer_instance
    · refine Makes.past fun value => ?_
      split
      · dsimp only
        infer_instance
      · infer_instance

instance : Makes Named (expressionStep grammar) := by
  unfold expressionStep
  infer_instance

instance : Makes Named (expression grammar) := by
  unfold expression
  refine Makes.given fun first named => Makes.given fun others named' => ?_
  split <;> infer_instance

end Operators

end Parse

end MessageHarvest.Script
