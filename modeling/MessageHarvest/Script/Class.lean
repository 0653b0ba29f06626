import MessageHarvest.Script.Function

namespace MessageHarvest.Script

namespace Scope

def forClass (scope : Scope) : Scope :=
  { scope with superAllowed := true, newTargetAllowed := true }

def forField (scope : Scope) : Scope :=
  { scope with inOperator := true, inField := true }

def forStaticBlock (scope : Scope) : Scope :=
  { scope with inField := true, inFunction := false }

end Scope

structure Member where
  node : Node
  isConstructor : Bool
  line : Nat

namespace Parse

def memberKey (grammar : Grammar) : Parse Key := do
  if ← at? .hash then
    let start ← line
    let name ← privateName
    if name = "constructor".toList then note .privateConstructor start
    return .hidden name
  else key grammar

/-- Does a property end or take its value here? With `orLineEnd`, also where a statement may end. -/
def atPropertyEnd (orLineEnd : Bool) : Parse Bool := do
  match ← token with
  | .mark .assign => return true
  | .mark .braceClose => return true
  | .mark .semicolon => return true
  | _ => if orLineEnd then atStatementEnd else return false

def finishMethod (grammar : Grammar) (start : Nat) (name : Key) (isAsync isGenerator : Bool)
    (check : List BindingItem → Parse Unit) : Parse Member := do
  let function ← functionTail grammar start ⟨isAsync, isGenerator, true⟩ check
  return ⟨.classMethod start name.computed? function, false, start⟩

def finishProperty (grammar : Grammar) (start nameLine : Nat) (name : Key) : Parse Member := do
  if name.isConstructor then failAt .constructorField nameLine
  else
    let value ← if ← eat .assign then
        some <$> within Scope.forField grammar.assignment
      else pure none
    unless ← eatStatementEnd do noteHere .semicolonExpected
    return ⟨.classField start name.computed? value, false, start⟩

def staticBlock (grammar : Grammar) (start : Nat) : Parse Member := do
  let body ← within Scope.forStaticBlock (block grammar)
  return ⟨.staticBlock start body, false, start⟩

def generatorMethod (grammar : Grammar) (start : Nat) (isStatic isAsync : Bool) : Parse Member := do
  let nameLine ← line
  let name ← memberKey grammar
  if name.isConstructor && !isStatic then
    if isAsync then failAt .asyncConstructor nameLine else failAt .generatorConstructor start
  else finishMethod grammar start name isAsync true noCheck

def asyncMethod (grammar : Grammar) (start : Nat) (isStatic : Bool) : Parse Member := do
  if ← eat .star then generatorMethod grammar start isStatic true
  else
    let nameLine ← line
    let name ← memberKey grammar
    if name.isConstructor && !isStatic then failAt .asyncConstructor nameLine
    else finishMethod grammar start name true false noCheck

def accessorMethod (grammar : Grammar) (start accessorLine : Nat) (isStatic isGetter : Bool) :
    Parse Member := do
  let name ← memberKey grammar
  if name.isConstructor && !isStatic then note .constructorAccessor accessorLine
  finishMethod grammar start name false false
    (if isGetter then checkGetter accessorLine else checkSetter accessorLine)

def namedMember (grammar : Grammar) (start : Nat) (isStatic : Bool) : Parse Member := do
  let nameLine ← line
  let name ← memberKey grammar
  if ← at? .parenOpen then
    let method ← finishMethod grammar start name false false noCheck
    return { method with isConstructor := name.isConstructor && !isStatic }
  else
    let generatorOnNextLine := (← newline) && (← at? .star)
    let accessor := (name.isNamed "get".toList || name.isNamed "set".toList) &&
      !(← atPropertyEnd false) && !generatorOnNextLine
    let property ← atPropertyEnd true
    let lineEnded ← newline
    if !accessor && property then finishProperty grammar start nameLine name
    else if name.isNamed "async".toList && !lineEnded then asyncMethod grammar start isStatic
    else if accessor then
      accessorMethod grammar start nameLine isStatic (name.isNamed "get".toList)
    else failUnexpected "* for generator, private key, identifier or async".toList

def modifiedMember (grammar : Grammar) (start : Nat) (isStatic : Bool) : Parse Member := do
  if isStatic && (← at? .braceOpen) then staticBlock grammar start
  else if ← eat .star then generatorMethod grammar start isStatic false
  else namedMember grammar start isStatic

def member (grammar : Grammar) : Parse (Option Member) := do
  let start ← line
  match ← token with
  | .mark .braceClose => return none
  | .finish => return none
  | .mark .semicolon =>
      advance
      return some ⟨.emptyMember start, false, start⟩
  | _ =>
      if ← eatWord "static".toList then
        if ← at? .parenOpen then
          return some (← finishMethod grammar start (.plain "static".toList) false false noCheck)
        else if ← atPropertyEnd false then
          return some (← finishProperty grammar start start (.plain "static".toList))
        else return some (← modifiedMember grammar start true)
      else return some (← modifiedMember grammar start false)

def noteRepeatedConstructors : (seen : Bool) → List Member → Parse Unit
  | _, [] => pure ()
  | seen, member :: members => do
      if seen && member.isConstructor then note .duplicateConstructor member.line
      noteRepeatedConstructors (seen || member.isConstructor) members

def classMembers (grammar : Grammar) : Parse (List Node) := do
  expect .braceOpen
  let members ← collect (member grammar)
  noteRepeatedConstructors false members
  if ← atEnd then
    noteHere (.expected Mark.braceClose.spelling Token.finish.description)
  else expect .braceClose
  return members.map (·.node)

def className (named : Bool) : Parse Unit := do
  if ← atWord "let".toList then
    failUnexpected "let is reserved in const, let, class declaration".toList
  else if named then
    let _ ← bindingIdentifier
  else optionalName

def classFromWord (grammar : Grammar) (start : Nat) (named : Bool) : Parse Node := do
  expectWord "class".toList
  className named
  let base ← if ← eatWord "extends".toList then some <$> grammar.operand else pure none
  let members ← within Scope.forClass (classMembers grammar)
  return .classBody start members base

end Parse

end MessageHarvest.Script
