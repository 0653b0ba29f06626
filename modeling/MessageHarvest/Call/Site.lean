import MessageHarvest.Config.Basic
import MessageHarvest.Message.Record
import MessageHarvest.Script.Node

/-!
Call sites in a syntax tree: calls of a configured method on a configured object whose first argument
is a text that is known without running the script. A visitor goes through the tree and records them.
-/

namespace MessageHarvest.Call

open Script (Node)

variable (config : Config) (file : Text)

/-- A property by a plain name, and the object it is looked up in; `?.` may stand between them. -/
def property? : Node → Option (Node × Text)
  | .member _ object property => some (object, property)
  | .chain _ (.member _ object property) => some (object, property)
  | _ => none

def isTranslatorMember (node : Node) : Bool :=
  match property? node with
  | some (.identifier _ object, method) => config.isObject object && config.isMethod method
  | _ => false

def isTranslatorCall (callee : Node) : Bool :=
  match callee with
  | .superWord _ => false
  | .importWord _ => false
  | expression => isTranslatorMember config expression

def staticText? : Node → Option Text
  | .string _ value => value
  | .template _ [] [piece] => piece
  | _ => none

def domainText? : Node → Option Text
  | .string _ value => value
  | _ => none

def domainOf (arguments : List Node) : Text :=
  match arguments with
  | _ :: _ :: third :: others =>
      (domainText? ((third :: others).getLast (by simp))).getD config.defaultDomain
  | _ => config.defaultDomain

def messageRecord? (arguments : List Node) : Option MessageRecord :=
  match arguments with
  | [] => none
  | first :: _ =>
      match staticText? first with
      | some (c :: text) => some ⟨c :: text, domainOf config arguments, file, some first.line⟩
      | _ => none

def recordCall (records : List MessageRecord) (translator : Bool) (arguments : List Node) :
    List MessageRecord :=
  if translator then records ++ (messageRecord? config file arguments).toList else records

mutual

/-- Both kinds of calls are recorded before what is in them; anything else is only gone through. -/
def visit (records : List MessageRecord) : Node → List MessageRecord
  | .call _ callee arguments =>
      let records := recordCall config file records (isTranslatorCall config callee) arguments
      visitAll (visit records callee) arguments
  | .optionalCall _ callee arguments =>
      let records := recordCall config file records (isTranslatorMember config callee) arguments
      visitAll (visit records callee) arguments
  | .chain _ base => visit records base
  | .construction _ callee arguments => visitAll (visit records callee) arguments
  | .member _ object _ => visit records object
  | .privateMember _ object => visit records object
  | .computedMember _ object index => visit (visit records object) index
  | .template _ expressions _ => visitAll records expressions
  | .taggedTemplate _ tag template => visit (visit records tag) template
  | .function _ parameters body => visit (visitAll records parameters) body
  | .arrow _ parameters body => visit (visitAll records parameters) body
  | .classBody _ members base => visitOption (visitAll records members) base
  | .classMethod _ key function => visit (visitOption records key) function
  | .classField _ key value => visitOption (visitOption records key) value
  | .staticBlock _ body => visit records body
  | .array _ elements _ => visitAll records elements
  | .object _ properties _ => visitAll records properties
  | .pair _ key value => visit (visitOption records key) value
  | .shorthand _ name => visit records name
  | .shorthandDefault _ name value => visit (visit records name) value
  | .method _ key function => visit (visitOption records key) function
  | .spread _ argument => visit records argument
  | .parenthesized _ inner => visit records inner
  | .sequence _ expressions => visitAll records expressions
  | .assignment _ _ left right => visit (visit records left) right
  | .conditional _ test consequent alternative =>
      visit (visit (visit records test) consequent) alternative
  | .binary _ _ left right => visit (visit records left) right
  | .unary _ operand => visitOption records operand
  | .update _ operand => visit records operand
  | .awaiting _ operand => visit records operand
  | .yielding _ operand => visitOption records operand
  | .arrayPattern _ elements => visitAll records elements
  | .objectPattern _ properties => visitAll records properties
  | .defaultPattern _ target value => visit (visit records target) value
  | .element _ attributes children => visitAll (visitAll records attributes) children
  | .fragment _ children => visitAll records children
  | .attribute _ value => visitOption records value
  | .container _ expression => visitOption records expression
  | .declaration _ declarators => visitAll records declarators
  | .declarator _ target value => visitOption (visit records target) value
  | .block _ statements => visitAll records statements
  | .conditionalStatement _ test consequent alternative =>
      visitOption (visit (visit records test) consequent) alternative
  | .whileLoop _ test body => visit (visit records test) body
  | .doLoop _ test body => visit (visit records test) body
  | .countedLoop _ initial test step body =>
      visit (visitOption (visitOption (visitOption records initial) test) step) body
  | .memberLoop _ left right body => visit (visit (visit records left) right) body
  | .switchStatement _ subject cases => visitAll (visit records subject) cases
  | .switchCase _ test statements => visitAll (visitOption records test) statements
  | .tryStatement _ body handler finalizer =>
      visitOption (visitOption (visit records body) handler) finalizer
  | .catchClause _ binding body => visit (visitOption records binding) body
  | .returnStatement _ value => visitOption records value
  | .throwStatement _ value => visit records value
  | .withStatement _ subject body => visit (visit records subject) body
  | .labelled _ body => visit records body
  | .importDeclaration _ attributes => visitOption records attributes
  | .exportDeclaration _ exported => visit records exported
  | .exportNames _ attributes => visitOption records attributes
  | .moduleBody _ items => visitAll records items
  | .identifier .. | .privateName .. | .string .. | .literal .. | .this .. | .superWord ..
  | .importWord .. | .metaProperty .. | .emptyMember .. | .hole .. | .invalid .. | .markupText ..
  | .emptyStatement .. | .jumpStatement .. => records

def visitAll (records : List MessageRecord) : List Node → List MessageRecord
  | [] => records
  | node :: nodes => visitAll (visit records node) nodes

def visitOption (records : List MessageRecord) : Option Node → List MessageRecord
  | none => records
  | some node => visit records node

end

def sites (tree : Node) : List MessageRecord := visit config file [] tree

end MessageHarvest.Call
