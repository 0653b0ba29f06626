import MessageHarvest.Text.Basic

/-!
Syntax trees, with a constructor for each construct of the language. The first field is the line the
construct begins on. The others are what it is made of, in the order in which a walk goes into them:
that of the source, except that the test of a `do` loop comes before its body and the members of a
class come before the class it extends.
-/

namespace MessageHarvest.Script

/-- Kinds of binary operators, as far as it is ruled which of them may stand beside each other. -/
inductive OperatorKind where
  | plain
  | logical
  | nullish
  deriving Repr, DecidableEq

inductive Node where
  | identifier (line : Nat) (name : Text)
  | privateName (line : Nat)
  | string (line : Nat) (value : Option Text)
  | literal (line : Nat)
  | this (line : Nat)
  | superWord (line : Nat)
  | importWord (line : Nat)
  | metaProperty (line : Nat)
  | template (line : Nat) (expressions : List Node) (pieces : List (Option Text))
  | taggedTemplate (line : Nat) (tag template : Node)
  | member (line : Nat) (object : Node) (property : Text)
  | privateMember (line : Nat) (object : Node)
  | computedMember (line : Nat) (object index : Node)
  | call (line : Nat) (callee : Node) (arguments : List Node)
  /-- A call that is a link of an optional chain, with or without a question mark of its own. -/
  | optionalCall (line : Nat) (callee : Node) (arguments : List Node)
  /-- A link of an optional chain: its base is an access or an optional call, in which the links before
  it stand as chains of their own. -/
  | chain (line : Nat) (base : Node)
  | construction (line : Nat) (callee : Node) (arguments : List Node)
  | function (line : Nat) (parameters : List Node) (body : Node)
  | arrow (line : Nat) (parameters : List Node) (body : Node)
  | classBody (line : Nat) (members : List Node) (base : Option Node)
  | classMethod (line : Nat) (key : Option Node) (function : Node)
  | classField (line : Nat) (key value : Option Node)
  | staticBlock (line : Nat) (body : Node)
  | emptyMember (line : Nat)
  | array (line : Nat) (elements : List Node) (comma : Option Nat)
  | hole (line : Nat)
  | object (line : Nat) (properties : List Node) (comma : Option Nat)
  | pair (line : Nat) (key : Option Node) (value : Node)
  | shorthand (line : Nat) (name : Node)
  | shorthandDefault (line : Nat) (name value : Node)
  | method (line : Nat) (key : Option Node) (function : Node)
  | spread (line : Nat) (argument : Node)
  | parenthesized (line : Nat) (inner : Node)
  | sequence (line : Nat) (expressions : List Node)
  | assignment (line : Nat) (plain : Bool) (left right : Node)
  | conditional (line : Nat) (test consequent alternative : Node)
  | binary (line : Nat) (kind : OperatorKind) (left right : Node)
  | unary (line : Nat) (operand : Option Node)
  | update (line : Nat) (operand : Node)
  | awaiting (line : Nat) (operand : Node)
  | yielding (line : Nat) (operand : Option Node)
  | invalid (line : Nat)
  | arrayPattern (line : Nat) (elements : List Node)
  | objectPattern (line : Nat) (properties : List Node)
  | defaultPattern (line : Nat) (target value : Node)
  | element (line : Nat) (attributes children : List Node)
  | fragment (line : Nat) (children : List Node)
  | attribute (line : Nat) (value : Option Node)
  | container (line : Nat) (expression : Option Node)
  | markupText (line : Nat)
  | declaration (line : Nat) (declarators : List Node)
  | declarator (line : Nat) (target : Node) (value : Option Node)
  | block (line : Nat) (statements : List Node)
  | emptyStatement (line : Nat)
  | conditionalStatement (line : Nat) (test consequent : Node) (alternative : Option Node)
  | whileLoop (line : Nat) (test body : Node)
  | doLoop (line : Nat) (test body : Node)
  | countedLoop (line : Nat) (initial test step : Option Node) (body : Node)
  | memberLoop (line : Nat) (left right body : Node)
  | switchStatement (line : Nat) (subject : Node) (cases : List Node)
  | switchCase (line : Nat) (test : Option Node) (statements : List Node)
  | tryStatement (line : Nat) (body : Node) (handler finalizer : Option Node)
  | catchClause (line : Nat) (binding : Option Node) (body : Node)
  | returnStatement (line : Nat) (value : Option Node)
  | throwStatement (line : Nat) (value : Node)
  | jumpStatement (line : Nat)
  | withStatement (line : Nat) (subject body : Node)
  | labelled (line : Nat) (body : Node)
  | importDeclaration (line : Nat) (attributes : Option Node)
  | exportDeclaration (line : Nat) (exported : Node)
  | exportNames (line : Nat) (attributes : Option Node)
  | moduleBody (line : Nat) (items : List Node)
  deriving Repr

namespace Node

def line : Node → Nat
  | .identifier line _ | .privateName line | .string line _ | .literal line | .this line
  | .superWord line | .importWord line | .metaProperty line | .template line _ _
  | .taggedTemplate line _ _ | .member line _ _ | .privateMember line _
  | .computedMember line _ _ | .call line _ _ | .optionalCall line _ _ | .chain line _
  | .construction line _ _ | .function line _ _ | .arrow line _ _ | .classBody line _ _
  | .classMethod line _ _ | .classField line _ _ | .staticBlock line _ | .emptyMember line
  | .array line _ _ | .hole line | .object line _ _ | .pair line _ _ | .shorthand line _
  | .shorthandDefault line _ _ | .method line _ _ | .spread line _ | .parenthesized line _
  | .sequence line _ | .assignment line _ _ _ | .conditional line _ _ _ | .binary line _ _ _
  | .unary line _ | .update line _ | .awaiting line _ | .yielding line _ | .invalid line
  | .arrayPattern line _ | .objectPattern line _ | .defaultPattern line _ _
  | .element line _ _ | .fragment line _ | .attribute line _ | .container line _
  | .markupText line | .declaration line _ | .declarator line _ _ | .block line _
  | .emptyStatement line | .conditionalStatement line _ _ _ | .whileLoop line _ _
  | .doLoop line _ _ | .countedLoop line _ _ _ _ | .memberLoop line _ _ _
  | .switchStatement line _ _ | .switchCase line _ _ | .tryStatement line _ _ _
  | .catchClause line _ _ | .returnStatement line _ | .throwStatement line _
  | .jumpStatement line | .withStatement line _ _ | .labelled line _
  | .importDeclaration line _ | .exportDeclaration line _ | .exportNames line _
  | .moduleBody line _ => line

end Node

end MessageHarvest.Script
