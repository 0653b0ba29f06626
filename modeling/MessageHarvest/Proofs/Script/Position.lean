import MessageHarvest.Script.Node
import Mathlib.Data.List.Basic
import Mathlib.Data.List.Lex

/-!
Positions of nodes in a tree: the way down from the root, one index for each step. In their
lexicographic order a node comes before what is in it, and its fields come in their order.
-/

namespace MessageHarvest.Script.Node

/-- What a node is made of, in the order in which a walk goes into it. -/
@[reducible] def fields : Node → List Node
  | .template _ expressions _ => expressions
  | .taggedTemplate _ tag content => [tag, content]
  | .member _ owner _ => [owner]
  | .privateMember _ owner => [owner]
  | .computedMember _ owner index => [owner, index]
  | .call _ callee arguments => callee :: arguments
  | .optionalCall _ callee arguments => callee :: arguments
  | .chain _ base => [base]
  | .construction _ callee arguments => callee :: arguments
  | .function _ parameters body => parameters ++ [body]
  | .arrow _ parameters body => parameters ++ [body]
  | .classBody _ members base => members ++ base.toList
  | .classMethod _ key value => key.toList ++ [value]
  | .classField _ key value => key.toList ++ value.toList
  | .staticBlock _ body => [body]
  | .array _ elements _ => elements
  | .object _ properties _ => properties
  | .pair _ key value => key.toList ++ [value]
  | .shorthand _ name => [name]
  | .shorthandDefault _ name value => [name, value]
  | .method _ key value => key.toList ++ [value]
  | .spread _ argument => [argument]
  | .parenthesized _ inner => [inner]
  | .sequence _ expressions => expressions
  | .assignment _ _ left right => [left, right]
  | .conditional _ test consequent alternative => [test, consequent, alternative]
  | .binary _ _ left right => [left, right]
  | .unary _ operand => operand.toList
  | .update _ operand => [operand]
  | .awaiting _ operand => [operand]
  | .yielding _ operand => operand.toList
  | .arrayPattern _ elements => elements
  | .objectPattern _ properties => properties
  | .defaultPattern _ target value => [target, value]
  | .element _ attributes children => attributes ++ children
  | .fragment _ children => children
  | .attribute _ value => value.toList
  | .container _ expression => expression.toList
  | .declaration _ declarators => declarators
  | .declarator _ target value => target :: value.toList
  | .block _ statements => statements
  | .conditionalStatement _ test consequent alternative =>
      test :: consequent :: alternative.toList
  | .whileLoop _ test body => [test, body]
  | .doLoop _ test body => [test, body]
  | .countedLoop _ initial test step body =>
      initial.toList ++ test.toList ++ step.toList ++ [body]
  | .memberLoop _ left right body => [left, right, body]
  | .switchStatement _ subject cases => subject :: cases
  | .switchCase _ test statements => test.toList ++ statements
  | .tryStatement _ body handler finalizer => body :: handler.toList ++ finalizer.toList
  | .catchClause _ binding body => binding.toList ++ [body]
  | .returnStatement _ value => value.toList
  | .throwStatement _ value => [value]
  | .withStatement _ subject body => [subject, body]
  | .labelled _ body => [body]
  | .importDeclaration _ attributes => attributes.toList
  | .exportDeclaration _ exported => [exported]
  | .exportNames _ attributes => attributes.toList
  | .moduleBody _ items => items
  | .identifier .. | .privateName .. | .string .. | .literal .. | .this .. | .superWord ..
  | .importWord .. | .metaProperty .. | .emptyMember .. | .hole .. | .invalid .. | .markupText ..
  | .emptyStatement .. | .jumpStatement .. => []

theorem induct {P : Node → Prop} (step : ∀ node : Node, (∀ part ∈ node.fields, P part) → P node)
    (node : Node) : P node := by
  apply Node.rec (motive_1 := P) (motive_2 := fun nodes => ∀ part ∈ nodes, P part)
    (motive_3 := fun found => ∀ part ∈ found.toList, P part)
  case nil => nofun
  case cons =>
    intro node nodes first others
    exact List.forall_mem_cons.2 ⟨first, others⟩
  case none => nofun
  case some =>
    intro node own
    exact List.forall_mem_cons.2 ⟨own, nofun⟩
  all_goals
    intros
    refine step _ ?_
    simp only [fields, List.forall_mem_append, List.forall_mem_cons]
    and_intros <;> first | assumption | nofun

def at? : Node → List Nat → Option Node
  | node, [] => some node
  | node, i :: position => (node.fields[i]?).bind fun part => part.at? position

theorem at?_nil (node : Node) : node.at? [] = some node := by
  rw [at?]

theorem at?_cons (node : Node) (i : Nat) (position : List Nat) :
    node.at? (i :: position) = (node.fields[i]?).bind fun part => part.at? position := by
  rw [at?]

end MessageHarvest.Script.Node
