import MessageHarvest.Script.Collection

namespace MessageHarvest.Script

namespace Parse

def advanceMarkup : Parse Unit := advanceTo (fun lexeme => markupLexeme lexeme.after) .markup

/-- Leaves a tag at its closing bracket: an element inside another goes on between tags. -/
def leaveTag (nested : Bool) : Parse Unit := do
  if nested then advanceMarkup else advance

def splitGreater : Parse Unit where
  run _ state :=
    if state.current.start.rest.head? = some '>' then
      .done () (state.replace state.current.firstGreater)
    else .done () state
  forward _ state := by
    split
    · rename_i greater
      exact .replace .refl (.firstGreater state.current greater)
    · exact .refl

def atGreater : Parse Bool := do
  splitGreater
  at? .greater

def expectGreater : Parse Unit := do
  unless ← atGreater do failExpected Mark.greater.spelling

def tagWord : Parse Text := do
  match ← token with
  | .word _ _ =>
      let lexeme ← current
      advanceTo markupWordNext .markupWord
      return (markupWord lexeme.start.rest).1
  | _ => failUnexpected "jsx identifier".toList

def tagMembers (text : Text) : Parse (Option Text) := do
  if ← eat .dot then
    let member ← tagWord
    return some (text ++ '.' :: member)
  else return none

def tagName : Parse Text := do
  let text ← tagWord
  if ← eat .colon then
    let localName ← tagWord
    return text ++ ':' :: localName
  else grow tagMembers text

def advanceToValue : Parse Unit := advanceTo (fun lexeme => markupValue lexeme.after) .markupValue

def attributeValue (grammar : Grammar) : Parse Node := do
  let start ← line
  match ← token with
  | .string value =>
      advance
      return .string start value
  | .mark .braceOpen =>
      advance
      let node ← withIn grammar.expression
      expect .braceClose
      return .container start (some node)
  | .mark .less => grammar.markup false
  | _ => fail .markupValue

def tagAttribute (grammar : Grammar) : Parse (Option Node) := do
  let start ← line
  if ← atGreater then return none
  else match ← token with
  | .mark .slash => return none
  | .finish => return none
  | .mark .braceOpen =>
      advance
      expect .ellipsis
      let node ← withIn grammar.assignment
      expect .braceClose
      return some (.spread start node)
  | _ =>
      let _ ← tagWord
      if ← eat .colon then
        let _ ← tagWord
      if ← at? .assign then
        advanceToValue
        return some (.attribute start (some (← attributeValue grammar)))
      else return some (.attribute start none)

def childExpression (grammar : Grammar) : Parse Node := do
  let start ← line
  advance
  let spreads ← eat .ellipsis
  if ← at? .braceClose then
    advanceMarkup
    return .container start none
  else
    let node ← withIn grammar.expression
    unless ← at? .braceClose do failExpected Mark.braceClose.spelling
    advanceMarkup
    return if spreads then .spread start node else .container start (some node)

def childOnce (grammar : Grammar) : Parse (Option Node) := do
  match ← token with
  | .markupText =>
      let start ← line
      advanceMarkup
      return some (.markupText start)
  | .mark .braceOpen => return some (← childExpression grammar)
  | .mark .less => return some (← grammar.markup true)
  | _ => return none

/-- A fault among the children ends the list of children. -/
def child (grammar : Grammar) : Parse (Option Node) := do
  match ← attempt (childOnce grammar) with
  | .ok node => return node
  | .error _ => return none

def children (grammar : Grammar) : Parse (List Node) := do
  collect (child grammar)

def fragment (grammar : Grammar) (nested : Bool) (start : Nat) : Parse Node := do
  advanceMarkup
  let nodes ← children grammar
  expect .lessSlash
  unless ← atGreater do fail .closingFragmentExpected
  leaveTag nested
  return .fragment start nodes

def closingTag (nested : Bool) (name : Text) : Parse Unit := do
  let closing ← line
  expect .lessSlash
  let closed ← tagName
  expectGreater
  leaveTag nested
  unless closed = name do failAt (.closingTagExpected name) closing

def markup (grammar : Grammar) (nested : Bool) : Parse Node := do
  let start ← line
  expect .less
  if ← atGreater then fragment grammar nested start
  else
    let name ← tagName
    let attributes ← collect (tagAttribute grammar)
    if ← eat .slash then
      expectGreater
      leaveTag nested
      return .element start attributes []
    else
      expectGreater
      advanceMarkup
      let nodes ← children grammar
      closingTag nested name
      return .element start attributes nodes

end Parse

end MessageHarvest.Script
