import MessageHarvest.Proofs.Script.NamingExpression
import MessageHarvest.Script.Module

namespace MessageHarvest.Script

open Parse

set_option synthInstance.maxSize 10000

namespace Parse

variable {grammar : Grammar} [Grammar.Names grammar]

section Declarations

instance : Makes Named (parenthesizedTest grammar) := by
  unfold parenthesizedTest
  infer_instance

instance : Makes Named (nestedStatement grammar) := by
  unfold nestedStatement
  infer_instance

instance : Makes Named (loopBody grammar) := by
  unfold loopBody
  infer_instance

instance (kind : DeclarationKind) (inHead : Bool) :
    Makes Named (declarator grammar kind inHead) := by
  unfold declarator
  dsimp only
  infer_instance

instance (kind : DeclarationKind) (inHead : Bool) :
    Makes Named (declaratorItem grammar kind inHead) := by
  unfold declaratorItem
  infer_instance

instance (kind : DeclarationKind) (inHead : Bool) :
    Makes Named (declaratorStep grammar kind inHead) := by
  unfold declaratorStep
  infer_instance

instance (kind : DeclarationKind) (inHead : Bool) :
    Makes Named (declarators grammar kind inHead) := by
  unfold declarators
  refine Makes.given fun found named => ?_
  split
  · infer_instance
  · rename_i first
    have first_named : Fact (Named first) := ⟨named.out first rfl⟩
    infer_instance

instance (kind : DeclarationKind) : Makes Named (declaration grammar kind) := by
  unfold declaration
  infer_instance

end Declarations

section Loops

variable (start : Nat)

instance : Makes Named (ifStatement grammar start) := by
  unfold ifStatement
  infer_instance

instance : Makes Named (whileStatement grammar start) := by
  unfold whileStatement
  infer_instance

instance : Makes Named (doStatement grammar start) := by
  unfold doStatement
  infer_instance

instance (left : Node) [Fact (Named left)] : Makes Named (memberHead grammar left) := by
  unfold memberHead
  infer_instance

instance (initial : Option Node) [Fact (Named initial)] :
    Makes Named (countedHead grammar initial) := by
  unfold countedHead
  dsimp only
  infer_instance

instance (kind : DeclarationKind) : Makes Named (declarationHead grammar kind) := by
  unfold declarationHead
  dsimp only
  refine Makes.past fun start => Makes.past fun _ => Makes.given fun items named =>
    Makes.past fun loops => ?_
  split
  · split <;> infer_instance
  · infer_instance

instance : Makes Named (loopHead grammar) := by
  unfold loopHead
  refine Makes.past fun kind => ?_
  split <;> infer_instance

instance : Makes Named (forStatement grammar start) := by
  unfold forStatement
  infer_instance

end Loops

section Statements

variable (start : Nat)

instance : Makes Named (caseStatement grammar) := by
  unfold caseStatement
  refine Makes.past fun value => ?_
  split <;> infer_instance

instance (defaultSeen : Bool) : Makes Named (switchCase grammar defaultSeen) := by
  unfold switchCase
  infer_instance

instance (read : List Node × Bool) [named : Fact (Named read)] :
    Makes Named (switchStep grammar read) := by
  have nodes_named : Fact (Named read.1) := named
  unfold switchStep
  refine Makes.given fun found named => ?_
  split
  · rename_i node seen
    have node_named : Fact (Named node) := ⟨named.out (node, seen) rfl⟩
    infer_instance
  · infer_instance

instance : Makes Named (switchStatement grammar start) := by
  unfold switchStatement
  refine Makes.given fun subject subject_named => Makes.past fun _ => Makes.given fun read named => ?_
  obtain ⟨cases, seen⟩ := read
  have cases_named : Fact (Named cases) := named
  infer_instance

instance : Makes Named (catchClause grammar) := by
  unfold catchClause
  dsimp only
  infer_instance

instance : Makes Named (finallyClause grammar) := by
  unfold finallyClause
  infer_instance

instance : Makes Named (tryStatement grammar start) := by
  unfold tryStatement
  infer_instance

instance : Makes Named (strayHandler grammar) := by
  unfold strayHandler
  infer_instance

instance : Makes Named (returnStatement grammar start) := by
  unfold returnStatement
  dsimp only
  infer_instance

instance : Makes Named (throwStatement grammar start) := by
  unfold throwStatement
  infer_instance

instance : Makes Named (breakStatement start) := by
  unfold breakStatement
  refine Makes.past fun label => Makes.past fun place => ?_
  dsimp only
  split <;> infer_instance

instance : Makes Named (continueStatement start) := by
  unfold continueStatement
  infer_instance

instance : Makes Named (withStatement grammar start) := by
  unfold withStatement
  infer_instance

instance (label : Text) : Makes Named (labelledStatement grammar start label) := by
  unfold labelledStatement
  dsimp only
  infer_instance

instance (node : Node) [Fact (Named node)] : Makes Named (endExpressionStatement grammar node) := by
  unfold endExpressionStatement
  refine Makes.past fun ends => ?_
  split
  · infer_instance
  · refine Makes.past fun found => ?_
    split <;> infer_instance

instance : Makes Named (expressionStatement grammar) := by
  unfold expressionStatement
  refine Makes.given fun node named => ?_
  split <;> infer_instance

instance : Makes Named (managedDeclaration grammar start) := by
  unfold managedDeclaration
  infer_instance

instance (declarations : Bool) : Makes Named (functionDeclaration grammar declarations) := by
  unfold functionDeclaration
  infer_instance

instance (declarations : Bool) : Makes Named (classDeclaration grammar declarations) := by
  unfold classDeclaration
  infer_instance

instance : Makes Named (asyncFunctionDeclaration grammar) := by
  unfold asyncFunctionDeclaration
  infer_instance

instance : Makes Named (importCallStatement grammar) := by
  unfold importCallStatement
  infer_instance

instance (parser : Parse Node) [Makes Named parser] : Makes Named (wordStatement?.after parser) := by
  unfold wordStatement?.after
  infer_instance

instance (declarations : Bool) (text : Text) :
    Makes Named (wordStatement? grammar declarations text) := by
  unfold wordStatement?
  infer_instance

instance (declarations : Bool) : Makes Named (statement grammar declarations) := by
  unfold statement
  refine Makes.past fun foreign => ?_
  split
  · infer_instance
  · refine Makes.past fun value => ?_
    split
    · infer_instance
    · infer_instance
    · refine Makes.given fun found named => ?_
      split
      · rename_i node
        have node_named : Fact (Named node) := ⟨named.out node rfl⟩
        infer_instance
      · infer_instance
    · infer_instance

end Statements

section ModuleItems

instance : Makes Named (sourceAttributes grammar) := by
  unfold sourceAttributes
  infer_instance

instance : Makes Named (moduleSource grammar) := by
  unfold moduleSource
  refine Makes.past fun value => ?_
  split <;> infer_instance

instance : Makes Named (fromClause grammar) := by
  unfold fromClause
  infer_instance

instance : Makes Named (importDeclaration grammar) := by
  unfold importDeclaration
  refine Makes.past fun start => Makes.past fun _ => Makes.past fun value => ?_
  dsimp only
  split <;> infer_instance

instance : Makes Named (exportList grammar) := by
  unfold exportList
  infer_instance

instance : Makes Named (exportAll grammar) := by
  unfold exportAll
  infer_instance

instance : Makes Named (exportDefault grammar) := by
  unfold exportDefault
  infer_instance

instance : Makes Named (exportDeclaration grammar) := by
  unfold exportDeclaration
  refine Makes.past fun start => Makes.past fun _ => ?_
  -- the end of the source, a star and four words are looked for in turn
  iterate 6
    refine Makes.past fun found => ?_
    split
    · infer_instance
  refine Makes.past fun kind => ?_
  split <;> infer_instance

instance : Makes Named (moduleItem grammar) := by
  unfold moduleItem
  infer_instance

end ModuleItems

end Parse

namespace Grammar

instance : Grammar.Names unbound where
  expression := inferInstanceAs (Makes Named default)
  assignment := inferInstanceAs (Makes Named default)
  unary := inferInstanceAs (Makes Named default)
  operand := inferInstanceAs (Makes Named default)
  construction := inferInstanceAs (Makes Named default)
  binaryTail _ _ _ := inferInstanceAs (Makes Named default)
  binding := inferInstanceAs (Makes Named default)
  statement _ := inferInstanceAs (Makes Named default)
  markup _ := inferInstanceAs (Makes Named default)

instance (grammar : Grammar) [Grammar.Names grammar] : Grammar.Names (step grammar) where
  expression := inferInstanceAs (Makes Named (Parse.expression grammar))
  assignment := inferInstanceAs (Makes Named (Parse.assignment grammar))
  unary := inferInstanceAs (Makes Named (Parse.unary grammar false))
  operand := inferInstanceAs (Makes Named (Parse.operand grammar false))
  construction := inferInstanceAs (Makes Named (Parse.construction grammar false))
  binaryTail left minimum _ := inferInstanceAs (Makes Named (Parse.binaryTail grammar left minimum))
  binding := inferInstanceAs (Makes Named (Parse.bindingTarget grammar))
  statement declarations := inferInstanceAs (Makes Named (Parse.statement grammar declarations))
  markup nested := inferInstanceAs (Makes Named (Parse.markup grammar nested))

instance names_level (n : Nat) : Grammar.Names (level n) := by
  induction n with
  | zero => exact inferInstanceAs (Grammar.Names unbound)
  | succ n ih => exact inferInstanceAs (Grammar.Names (step (level n)))

end Grammar

theorem named_parseModule {source : Text} {tree : Node} (parsed : parseModule source = .ok tree) :
    Named tree := by
  unfold parseModule at parsed
  dsimp only at parsed
  split at parsed
  · cases parsed
  · rename_i nodes state ran
    split at parsed
    · cases parsed
    · cases parsed
      have items : Makes Named (collect (moduleItem (Grammar.level (source.length + 2)))) :=
        inferInstance
      have nodes_named : Fact (Named nodes) :=
        ⟨items.makes _ _ nodes state ran (Lexeme.named_first source)⟩
      exact Fact.out

end MessageHarvest.Script
