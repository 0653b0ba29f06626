import MessageHarvest.Script.Function

namespace MessageHarvest.Script

namespace Parse

def spreadOrAssignment (grammar : Grammar) : Parse Node := do
  let start ← line
  if ← eat .ellipsis then return .spread start (← withIn grammar.assignment)
  else withIn grammar.assignment

/-- The comma after an element, unless the list ends here. Of one that ends the list, the line is
kept. -/
def separator (close : Mark) : Parse (Option Nat) := do
  if ← at? close then return none
  else
    let comma ← line
    expect .comma
    if ← at? close then return some comma
    else return none

def lastComma {α : Type} (items : List (α × Option Nat)) : Option Nat := items.getLast?.bind (·.2)

def arrayItem (grammar : Grammar) : Parse (Option (Node × Option Nat)) := do
  let start ← line
  if ← at? .bracketClose then return none
  else if ← eat .comma then return some (.hole start, none)
  else
    let element ← spreadOrAssignment grammar
    return some (element, ← separator .bracketClose)

def arrayLiteral (grammar : Grammar) : Parse Node := do
  let start ← line
  expect .bracketOpen
  let items ← collect (arrayItem grammar)
  expect .bracketClose
  return .array start (items.map (·.1)) (lastComma items)

def methodProperty (grammar : Grammar) (start : Nat) (name : Key) (isAsync isGenerator : Bool)
    (check : List BindingItem → Parse Unit) : Parse Node := do
  let function ← functionTail grammar start ⟨isAsync, isGenerator, true⟩ check
  return .method start name.computed? function

/-- The language has no reserved words here, nor in patterns or among imported names, but the parser
does not look for them. -/
def shorthandProperty (grammar : Grammar) (start : Nat) (name : Text) : Parse Node := do
  let target := Node.identifier start name
  if ← eat .assign then
    return .shorthandDefault start target (← withIn grammar.assignment)
  else return .shorthand start target

/-- A property whose name so far is a word other than the name itself: `get`, `set` or `async`. -/
def modifiedProperty (grammar : Grammar) (start : Nat) (modifier : Text) : Parse Node := do
  if modifier = "get".toList then
    let name ← key grammar
    methodProperty grammar start name false false (checkGetter start)
  else if modifier = "set".toList then
    let name ← key grammar
    methodProperty grammar start name false false (checkSetter start)
  else if modifier = "async".toList then
    let isGenerator ← eat .star
    let name ← key grammar
    methodProperty grammar start name true isGenerator noCheck
  else
    failUnexpected
      "... , *,  (, [, :, , ?, =, an identifier, public, protected, private, readonly, <.".toList

def property (grammar : Grammar) : Parse Node := do
  let start ← line
  if ← eat .ellipsis then return .spread start (← withIn grammar.assignment)
  else if ← eat .star then
    let name ← key grammar
    methodProperty grammar start name false true noCheck
  else
    let name ← key grammar
    match ← token with
    | .mark .colon =>
        advance
        return .pair start name.computed? (← withIn grammar.assignment)
    | .mark .parenOpen => methodProperty grammar start name false false noCheck
    | following =>
        match name with
        | .plain text =>
            if following = .mark .assign || following = .mark .comma ||
                following = .mark .braceClose then
              shorthandProperty grammar start text
            else modifiedProperty grammar start text
        | _ => failUnexpected "a colon or a parameter list".toList

def objectItem (grammar : Grammar) : Parse (Option (Node × Option Nat)) := do
  if ← at? .braceClose then return none
  else
    let item ← property grammar
    return some (item, ← separator .braceClose)

def objectLiteral (grammar : Grammar) : Parse Node := do
  let start ← line
  expect .braceOpen
  let items ← collect (objectItem grammar)
  expect .braceClose
  return .object start (items.map (·.1)) (lastComma items)

def argument (grammar : Grammar) : Parse (Option Node) := do
  if ← at? .parenClose then return none
  else
    let item ← spreadOrAssignment grammar
    unless ← at? .parenClose do expect .comma
    return some item

def arguments (grammar : Grammar) : Parse (List Node) := do
  expect .parenOpen
  let items ← collect (argument grammar)
  expect .parenClose
  return items

/-- A chunk of a template and, unless it is the last one, the expression after it. An escape that
cannot be read is a fault except under a tag. -/
def templateStep (grammar : Grammar) (tagged : Bool)
    (read : List (Option Text) × List Node × Bool) :
    Parse (Option (List (Option Text) × List Node × Bool)) := do
  match read with
  | (_, _, true) => return none
  | (pieces, nodes, false) =>
      match ← token with
      | .template chunk closed =>
          match chunk.fault with
          | some report => unless tagged do failAt report.fault report.line
          | none => pure ()
          if closed then
            advance
            return some (pieces ++ [chunk.value], nodes, true)
          else
            advance
            let node ← withIn grammar.expression
            unless ← at? .braceClose do failUnexpected "\x60\x7d\x60".toList
            recut Lexeme.templateChunk .templateChunk
            return some (pieces ++ [chunk.value], nodes ++ [node], false)
      | _ => fail .expressionExpected

def template (grammar : Grammar) (tagged : Bool) : Parse Node := do
  let start ← line
  let (pieces, nodes, _) ← grow (templateStep grammar tagged) ([], [], false)
  return .template start nodes pieces

end Parse

end MessageHarvest.Script
