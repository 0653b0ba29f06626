import MessageHarvest.Script.Binding

namespace MessageHarvest.Script

structure FunctionShape where
  isAsync : Bool
  isGenerator : Bool
  isMethod : Bool
  deriving Repr, DecidableEq

namespace Scope

def forParameters (shape : FunctionShape) (scope : Scope) : Scope :=
  { scope with
    inOperator := true
    inAsync := shape.isAsync
    inGenerator := shape.isGenerator
    inFunction := false
    inParameters := true
    inField := false
    superAllowed := shape.isMethod
    newTargetAllowed := true }

/-- Neither labels nor the targets of `break` and `continue` reach into a function. -/
def forBody (shape : FunctionShape) (scope : Scope) : Scope :=
  { scope with
    inOperator := true
    inAsync := shape.isAsync
    inGenerator := shape.isGenerator
    inFunction := true
    inParameters := false
    inField := false
    superAllowed := shape.isMethod
    newTargetAllowed := true
    breakAllowed := false
    continueAllowed := false
    topLevel := false
    labels := [] }

/-- An arrow function sees `super`, `new.target` and `arguments` of what surrounds it. -/
def forArrowBody (isAsync : Bool) (scope : Scope) : Scope :=
  { scope with
    inAsync := isAsync
    inGenerator := false
    inFunction := true
    inParameters := false
    breakAllowed := false
    continueAllowed := false
    topLevel := false
    labels := [] }

end Scope

namespace Parse

def statementListItem (grammar : Grammar) : Parse (Option Node) := do
  match ← token with
  | .mark .braceClose => return none
  | .finish => return none
  | _ => return some (← grammar.statement true)

/-- A missing closing brace at the end of the source is noted only. -/
def blockStatements (grammar : Grammar) : Parse (List Node) := do
  expect .braceOpen
  let statements ← within (fun scope => { scope with inOperator := true, topLevel := false })
    (collect (statementListItem grammar))
  if ← atEnd then
    noteHere (.expected Mark.braceClose.spelling Token.finish.description)
  else advance
  return statements

def block (grammar : Grammar) : Parse Node := do
  let start ← line
  return .block start (← blockStatements grammar)

def strictDirective? : List Node → Option Nat
  | .string line value :: statements =>
      if value = some "use strict".toList then some line else strictDirective? statements
  | _ => none

def functionBlock (grammar : Grammar) (simple : Bool) : Parse Node := do
  let start ← line
  let statements ← blockStatements grammar
  unless simple do
    match strictDirective? statements with
    | some directive => note .strictDirective directive
    | none => pure ()
  return .block start statements

def parameter (grammar : Grammar) : Parse (Option BindingItem) := do
  let start ← line
  if ← at? .parenClose then return none
  else if ← eat .ellipsis then
    let target ← grammar.binding
    let value ← defaultValue grammar
    if value.isSome then note .restWithDefault start
    unless ← at? .parenClose do
      expect .comma
      if ← at? .parenClose then note .commaAfterRest (← previousLine)
    return some ⟨.spread start (withDefault start target value), true, true, start⟩
  else
    let element ← bindingElement grammar
    unless ← at? .parenClose do expect .comma
    return some ⟨element, false, false, start⟩

def parameters (grammar : Grammar) : Parse (List BindingItem) := do
  let items ← collect (parameter grammar)
  notePrecedingRests .restParameterNotLast items
  return items

/-- Parameters in parentheses and the body. `check` sees the parameters before the body is read. -/
def functionTail (grammar : Grammar) (start : Nat) (shape : FunctionShape)
    (check : List BindingItem → Parse Unit) : Parse Node := do
  expect .parenOpen
  let items ← within (Scope.forParameters shape) do
    let items ← parameters grammar
    check items
    expect .parenClose
    return items
  let body ← within (Scope.forBody shape)
    (functionBlock grammar (items.all (fun item => isIdentifier item.node)))
  return .function start (items.map (·.node)) body

def noCheck : List BindingItem → Parse Unit := fun _ => pure ()

def checkGetter (line : Nat) (items : List BindingItem) : Parse Unit := do
  unless items.isEmpty do note .getterParameters line

def checkSetter (line : Nat) (items : List BindingItem) : Parse Unit := do
  match items with
  | [item] => if item.rest then note .setterRest item.line
  | _ => note .setterParameters line

def arrowBody (grammar : Grammar) (isAsync simple : Bool) : Parse Node := do
  if ← at? .braceOpen then within (Scope.forArrowBody isAsync) (functionBlock grammar simple)
  else within (Scope.forArrowBody isAsync) grammar.assignment

def optionalName : Parse Unit := do
  match ← token with
  | .word text _ =>
      unless Word.isKeyword text do
        let _ ← bindingIdentifier
  | _ => pure ()

def functionFromWord (grammar : Grammar) (start : Nat) (isAsync named : Bool) : Parse Node := do
  expectWord "function".toList
  let isGenerator ← eat .star
  if named then
    let _ ← bindingIdentifier
  else optionalName
  functionTail grammar start ⟨isAsync, isGenerator, false⟩ noCheck

end Parse

end MessageHarvest.Script
