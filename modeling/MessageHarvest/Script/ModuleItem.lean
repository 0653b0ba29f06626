import MessageHarvest.Script.Statement

namespace MessageHarvest.Script

inductive ExportName where
  | word (text : Text)
  | string (value : Option Text)
  deriving Repr, DecidableEq

namespace Parse

def exportName : Parse ExportName := do
  match ← token with
  | .word text _ =>
      advance
      return .word text
  | .string value =>
      advance
      return .string value
  | _ => failUnexpected "identifier or string".toList

/-- Attributes of an import stand on the same line as its source. -/
def sourceAttributes (grammar : Grammar) : Parse (Option Node) := do
  if ← newline then return none
  else if (← eatWord "with".toList) then some <$> objectLiteral grammar
  else if (← eatWord "assert".toList) then some <$> objectLiteral grammar
  else return none

def moduleSource (grammar : Grammar) : Parse (Option Node) := do
  match ← token with
  | .string _ =>
      advance
      let attributes ← sourceAttributes grammar
      expectStatementEnd
      return attributes
  | _ => failUnexpected "a string literal".toList

def fromClause (grammar : Grammar) : Parse (Option Node) := do
  expectWord "from".toList
  moduleSource grammar

def specifiers {α : Type} (specifier : Parse α) : Parse (List α) := do
  let items ← collect do
    if (← at? .braceClose) || (← atEnd) then return none
    else
      let item ← specifier
      unless ← at? .braceClose do expect .comma
      return some item
  expect .braceClose
  return items

def importSpecifier : Parse Unit := do
  let start ← line
  match ← exportName with
  | .word text =>
      if ← eatWord "as".toList then
        let _ ← bindingIdentifier
      else if Word.isEvalOrArguments text then note .evalOrArgumentsBound start
  | .string value =>
      if ← eatWord "as".toList then
        let _ ← bindingIdentifier
      else failAt (.stringImported (value.getD [])) start

def importedNames : Parse Unit := do
  if ← eat .star then
    expectWord "as".toList
    let _ ← bindingIdentifier
  else if ← eat .braceOpen then
    let _ ← specifiers importSpecifier

def importDeclaration (grammar : Grammar) : Parse Node := do
  let start ← line
  advance
  match ← token with
  | .string _ => return .importDeclaration start (← moduleSource grammar)
  | .word _ _ =>
      let _ ← bindingIdentifier
      unless ← atWord "from".toList do
        expect .comma
        importedNames
      return .importDeclaration start (← fromClause grammar)
  | _ =>
      importedNames
      return .importDeclaration start (← fromClause grammar)

def exportSpecifier : Parse (ExportName × Nat) := do
  let start ← line
  let original ← exportName
  if ← eatWord "as".toList then
    let _ ← exportName
  return (original, start)

/-- Without a source, only names that can be variables are exported. -/
def noteUnexportable : List (ExportName × Nat) → Parse Unit
  | [] => pure ()
  | (.word text, start) :: items => do
      if !Word.isReference text then note (.exportNeedsSource text) start
      noteUnexportable items
  | (.string _, start) :: items => do
      note .stringExported start
      noteUnexportable items

def exportList (grammar : Grammar) : Parse (Option Node) := do
  expect .braceOpen
  let items ← specifiers exportSpecifier
  if ← atWord "from".toList then fromClause grammar
  else
    noteUnexportable items
    let _ ← eatStatementEnd
    return none

def exportAll (grammar : Grammar) : Parse (Option Node) := do
  if ← eatWord "as".toList then
    let _ ← exportName
  fromClause grammar

def exportDefault (grammar : Grammar) : Parse Node := do
  let start ← line
  if ← atWord "class".toList then classFromWord grammar start false
  else if ← atWord "function".toList then functionFromWord grammar start false false
  else if ← asyncFunctionFollows then
    advance
    functionFromWord grammar start true false
  else
    let node ← withIn (assignment grammar)
    expectStatementEnd
    return node

def exportDeclaration (grammar : Grammar) : Parse Node := do
  let start ← line
  advance
  if ← atEnd then fail .endOfSource
  else if ← eat .star then return .exportNames start (← exportAll grammar)
  else if ← eatWord "default".toList then return .exportDeclaration start (← exportDefault grammar)
  else if ← atWord "class".toList then
    return .exportDeclaration start (← classDeclaration grammar true)
  else if ← atWord "function".toList then
    return .exportDeclaration start (← functionDeclaration grammar true)
  else if ← asyncFunctionFollows then
    return .exportDeclaration start (← asyncFunctionDeclaration grammar)
  else match ← declarationKind? with
  | some kind => return .exportDeclaration start (← declaration grammar kind)
  | none => return .exportNames start (← exportList grammar)

def moduleItem (grammar : Grammar) : Parse (Option Node) := do
  if ← atEnd then return none
  else if ← atWord "export".toList then return some (← exportDeclaration grammar)
  else if ← atModuleWord then return some (← importDeclaration grammar)
  else return some (← statement grammar true)

end Parse

end MessageHarvest.Script
