import MessageHarvest.Script.Parse

namespace MessageHarvest.Script

namespace Parse

def nameText : Parse Text := do
  match ← token with
  | .word text _ =>
      advance
      return text
  | _ => fail .identifierExpected

def checkIdentifier (text : Text) (line : Nat) : Parse Unit := do
  if text = "arguments".toList && (← scope).inField then note .argumentsInField line
  if Word.isStrict text then note (.strictIdentifier text) line

def identifierText : Parse Text := do
  match ← token with
  | .word text _ =>
      if Word.isKeyword text then fail .identifierExpected
      else if text = "await".toList then fail .awaitAsIdentifier
      else
        let start ← line
        advance
        checkIdentifier text start
        return text
  | _ => fail .identifierExpected

def bindingIdentifier : Parse Node := do
  let start ← line
  let text ← identifierText
  if Word.isEvalOrArguments text then note .evalOrArgumentsBound start
  return .identifier start text

def privateName : Parse Text := do
  let hash ← current
  expect .hash
  match ← token with
  | .word text _ =>
      if (← current).start.rest = hash.after.rest then
        advance
        return text
      else fail .spaceAfterHash
  | _ => fail .identifierExpected

end Parse

inductive Key where
  | plain (name : Text)
  | string (value : Option Text)
  | numeric
  | computed (node : Node)
  | hidden (name : Text)

namespace Key

def computed? : Key → Option Node
  | .computed node => some node
  | _ => none

def isNamed (name : Text) : Key → Bool
  | .plain text => text = name
  | _ => false

def isConstructor : Key → Bool
  | .plain text => text = "constructor".toList
  | .string value => value = some "constructor".toList
  | _ => false

end Key

namespace Parse

def withIn {α : Type} (parser : Parse α) : Parse α :=
  within (fun scope => { scope with inOperator := true }) parser

def key (grammar : Grammar) : Parse Key := do
  match ← token with
  | .word text _ =>
      advance
      return .plain text
  | .string value =>
      advance
      return .string value
  | .number | .bigNumber =>
      advance
      return .numeric
  | .mark .bracketOpen =>
      advance
      let node ← withIn grammar.assignment
      expect .bracketClose
      return .computed node
  | _ =>
      failUnexpected "identifier, string literal, numeric literal or [ for the computed key".toList

def defaultValue (grammar : Grammar) : Parse (Option Node) := do
  if ← eat .assign then return some (← withIn grammar.assignment)
  else return none

def withDefault (line : Nat) (target : Node) : Option Node → Node
  | none => target
  | some value => .defaultPattern line target value

def bindingElement (grammar : Grammar) : Parse Node := do
  let start ← line
  let target ← grammar.binding
  return withDefault start target (← defaultValue grammar)

structure BindingItem where
  node : Node
  rest : Bool
  plainRest : Bool
  line : Nat

def notePrecedingRests (fault : Fault) : List BindingItem → Parse Unit
  | [] => pure ()
  | [_] => pure ()
  | item :: items => do
      if item.rest then note fault item.line
      notePrecedingRests fault items

def arrayBindingItem (grammar : Grammar) : Parse (Option BindingItem) := do
  let start ← line
  if ← at? .bracketClose then return none
  else if ← eat .comma then return some ⟨.hole start, false, false, start⟩
  else if ← eat .ellipsis then
    let target ← grammar.binding
    unless ← at? .bracketClose do
      expect .comma
      if ← at? .bracketClose then note .commaAfterRest (← previousLine)
    return some ⟨.spread start target, true, true, start⟩
  else
    let element ← bindingElement grammar
    unless ← at? .bracketClose do expect .comma
    return some ⟨element, false, false, start⟩

def arrayBinding (grammar : Grammar) : Parse Node := do
  let start ← line
  expect .bracketOpen
  let items ← collect (arrayBindingItem grammar)
  notePrecedingRests .restNotLast items
  expect .bracketClose
  return .arrayPattern start (items.map (·.node))

def isIdentifier : Node → Bool
  | .identifier .. => true
  | _ => false

def objectBindingProperty (grammar : Grammar) : Parse BindingItem := do
  let start ← line
  if ← eat .ellipsis then
    let target ← grammar.binding
    return ⟨.spread start target, true, isIdentifier target, start⟩
  else
    let name ← key grammar
    if ← eat .colon then
      let element ← bindingElement grammar
      return ⟨.pair start name.computed? element, false, false, start⟩
    else match name with
      | .plain text =>
          match ← defaultValue grammar with
          | some value =>
              return ⟨.shorthandDefault start (.identifier start text) value, false, false, start⟩
          | none =>
              return ⟨.shorthand start (.identifier start text), false, false, start⟩
      | _ => failUnexpected "an identifier".toList

/-- A property and, when it ended the list with a comma, the line of that comma. -/
def objectBindingItem (grammar : Grammar) : Parse (Option (BindingItem × Option Nat)) := do
  if ← at? .braceClose then return none
  else
    let item ← objectBindingProperty grammar
    if ← at? .braceClose then return some (item, none)
    else
      expect .comma
      if ← at? .braceClose then return some (item, some (← previousLine))
      else return some (item, none)

def checkLastRest : List (BindingItem × Option Nat) → Parse Unit
  | [] => pure ()
  | [(item, comma)] => do
      if item.rest then
        if item.plainRest then
          match comma with
          | some line => note .commaAfterRest line
          | none => pure ()
        else failAt .ellipsisWithoutIdentifier item.line
  | _ :: items => checkLastRest items

def objectBinding (grammar : Grammar) : Parse Node := do
  let start ← line
  expect .braceOpen
  let items ← collect (objectBindingItem grammar)
  expect .braceClose
  notePrecedingRests .restNotLast (items.map (·.1))
  checkLastRest items
  return .objectPattern start (items.map (·.1.node))

def bindingTarget (grammar : Grammar) : Parse Node := do
  match ← token with
  | .word _ _ => bindingIdentifier
  | .mark .bracketOpen => arrayBinding grammar
  | .mark .braceOpen => objectBinding grammar
  | _ => failUnexpected "yield, an identifier, [ or \x7b".toList

/-- A target in a `let` or `const` declaration, where `let` itself cannot be bound. -/
def lexicalTarget (grammar : Grammar) : Parse Node := do
  if ← atWord "let".toList then
    failUnexpected "let is reserved in const, let, class declaration".toList
  else bindingTarget grammar

end Parse

end MessageHarvest.Script
