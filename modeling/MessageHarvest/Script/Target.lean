import MessageHarvest.Script.Binding

/-!
Expressions that turn out to be assignment targets or parameters. An expression is read first, and
what follows it shows that it was a pattern; here it is checked to be one.
-/

namespace MessageHarvest.Script

/-- Variables and property accesses, also in parentheses. No link of an optional chain is one. -/
def isSimpleTarget : Node → Bool
  | .identifier _ name => !Word.isEvalOrArguments name
  | .member .. | .privateMember .. | .computedMember .. => true
  | .parenthesized _ inner => isSimpleTarget inner
  | _ => false

/-- What may stand before an equals sign at all, whether it is reported or not. -/
def mayBeTarget : Node → Bool
  | .identifier .. | .member .. | .privateMember .. | .computedMember .. | .chain ..
  | .parenthesized .. => true
  | _ => false

inductive PatternPlace where
  | element
  | parameter
  deriving Repr, DecidableEq

/-- Elements that are expressions for themselves; each is reported unless it is a simple target. -/
def isPlainElement : Node → Bool
  | .identifier .. | .member .. | .privateMember .. | .computedMember .. | .call .. | .string ..
  | .template .. | .literal .. | .construction .. | .function .. | .classBody ..
  | .parenthesized .. => true
  | _ => false

namespace Parse

def noteComma : Option Nat → Parse Unit
  | some line => note .commaAfterRest line
  | none => pure ()

def noteRestDefault (line : Nat) : Node → Parse Unit
  | .assignment .. => note .restWithDefault line
  | _ => pure ()

def checkPlainElement (node : Node) : Parse Unit :=
  if isPlainElement node then
    if isSimpleTarget node then pure () else note .cannotAssign node.line
  else note .notPattern node.line

def checkParameterName : Node → Parse Unit
  | .identifier line name =>
      if Word.isEvalOrArguments name then note .evalOrArgumentsBound line else pure ()
  | node => note .notPattern node.line

def checkShorthand (place : PatternPlace) (name : Node) : Parse Unit :=
  match place with
  | .element => pure ()
  | .parameter => checkParameterName name

mutual

def checkPattern (place : PatternPlace) : Node → Parse Unit
  | .array _ elements comma => checkElements place comma elements
  | .object _ properties comma => checkProperties place comma properties
  | .assignment _ true left _ =>
      match place with
      | .element => pure ()
      | .parameter => checkPattern place left
  | node =>
      match place with
      | .element => checkPlainElement node
      | .parameter => checkParameterName node

/-- `comma` is the line of a comma that ended the list. -/
def checkElements (place : PatternPlace) (comma : Option Nat) : List Node → Parse Unit
  | [] => pure ()
  | .hole _ :: nodes => checkElements place comma nodes
  | .spread line argument :: nodes => do
      if nodes.isEmpty then
        noteRestDefault line argument
        checkPattern place argument
        noteComma comma
      else
        note .restNotLast line
        checkElements place comma nodes
  | node :: nodes => do
      checkPattern place node
      checkElements place comma nodes

def checkProperties (place : PatternPlace) (comma : Option Nat) : List Node → Parse Unit
  | [] => pure ()
  | .spread line argument :: nodes => do
      if nodes.isEmpty then
        noteRestDefault line argument
        checkPattern place argument
        noteComma comma
      else
        note .restNotLast line
        checkProperties place comma nodes
  | .pair _ _ value :: nodes => do
      checkPattern place value
      checkProperties place comma nodes
  | .shorthand _ name :: nodes => do
      checkShorthand place name
      checkProperties place comma nodes
  | .shorthandDefault _ name _ :: nodes => do
      checkShorthand place name
      checkProperties place comma nodes
  | node :: _ => failAt .notPattern node.line

end

def checkTarget (node : Node) : Parse Unit := do
  match node with
  | .array .. => checkPattern .element node
  | .object .. => checkPattern .element node
  | _ =>
      unless isSimpleTarget node do
        note .targetNotSimple node.line
        unless mayBeTarget node do failAt .invalidTarget node.line

def checkCompoundTarget (node : Node) : Parse Unit := do
  unless isSimpleTarget node do
    note .targetNotSimple node.line
    unless mayBeTarget node do failAt .invalidTarget node.line

def checkUpdated (node : Node) : Parse Unit := do
  unless isSimpleTarget node do note .targetNotSimple node.line

def checkParameters (comma : Option Nat) : List Node → Parse Unit
  | [] => pure ()
  | [.spread line argument] => do
      noteRestDefault line argument
      checkPattern .parameter argument
      noteComma comma
  | .spread line _ :: nodes => do
      note .restParameterNotLast line
      checkParameters comma nodes
  | node :: nodes => do
      checkPattern .parameter node
      checkParameters comma nodes

end Parse

end MessageHarvest.Script
