import MessageHarvest.Script.Expression

namespace MessageHarvest.Script

namespace Scope

def nested (scope : Scope) : Scope := { scope with topLevel := false }

def inLoop (scope : Scope) : Scope :=
  { scope with topLevel := false, breakAllowed := true, continueAllowed := true }

def inSwitch (scope : Scope) : Scope := { scope with topLevel := false, breakAllowed := true }

def labelled (label : Text) (scope : Scope) : Scope :=
  { scope with topLevel := false, breakAllowed := true, labels := label :: scope.labels }

def forLoopHead (awaits : Bool) (scope : Scope) : Scope :=
  { scope with inOperator := false, inLoopHead := true, inAwaitLoopHead := awaits }

end Scope

namespace Parse

def parenthesizedTest (grammar : Grammar) : Parse Node := do
  expect .parenOpen
  let node ← withIn (expression grammar)
  expect .parenClose
  return node

def nestedStatement (grammar : Grammar) : Parse Node :=
  within Scope.nested (grammar.statement false)

def loopBody (grammar : Grammar) : Parse Node :=
  within Scope.inLoop (grammar.statement false)

inductive DeclarationKind where
  | varKind
  | letKind
  | constKind
  deriving Repr, DecidableEq

structure Declarator where
  node : Node
  hasValue : Bool
  line : Nat

def atLoopWord : Parse Bool := do
  return (← atWord "of".toList) || (← atWord "in".toList)

/-- A pattern needs a value, and so does a constant; in the head of a loop over members neither
does. -/
def declarator (grammar : Grammar) (kind : DeclarationKind) (inHead : Bool) : Parse Declarator := do
  let start ← line
  let target ← if kind = .varKind then bindingTarget grammar else lexicalTarget grammar
  if inHead && (← atLoopWord) then return ⟨.declarator start target none, false, start⟩
  else if ← eat .assign then
    let value ← grammar.assignment
    return ⟨.declarator start target (some value), true, start⟩
  else
    if kind = .constKind && !inHead then note .constantWithoutValue start
    else if !isIdentifier target then failAt .patternWithoutValue start
    return ⟨.declarator start target none, false, start⟩

/-- The list may not be empty, and no comma may end it. -/
def declaratorItem (grammar : Grammar) (kind : DeclarationKind) (inHead : Bool) :
    Parse (Option Declarator) := do
  if (← at? .semicolon) || (← atEnd) then
    note .emptyDeclarationList (← previousLine)
    return none
  else return some (← declarator grammar kind inHead)

def declaratorStep (grammar : Grammar) (kind : DeclarationKind) (inHead : Bool) :
    Parse (Option Declarator) := do
  if ← eat .comma then declaratorItem grammar kind inHead else return none

def declarators (grammar : Grammar) (kind : DeclarationKind) (inHead : Bool) :
    Parse (List Declarator) := do
  match ← declaratorItem grammar kind inHead with
  | none => return []
  | some first => return first :: (← collect (declaratorStep grammar kind inHead))

def skipToStatementEnd : Parse Unit := do
  let _ ← collect step
where
  step : Parse (Option Unit) := do
    if ← eatStatementEnd then return none
    else
      advance
      match ← token with
      | .broken _ => return none
      | _ => return some ()

/-- Where a declaration does not end properly, that is noted and the rest is skipped. -/
def endDeclaration (grammar : Grammar) : Parse Unit := do
  unless ← eatStatementEnd do
    noteHere .semicolonExpected
    let _ ← attempt (expression grammar)
    skipToStatementEnd

def declaration (grammar : Grammar) (kind : DeclarationKind) : Parse Node := do
  let start ← line
  advance
  let items ← withIn (declarators grammar kind false)
  endDeclaration grammar
  return .declaration start (items.map (·.node))

def letFollowed : Parse Bool := do
  match (← peek).token with
  | .word text _ => return !Word.isKeyword text
  | .mark .bracketOpen => return true
  | .mark .braceOpen => return true
  | _ => return false

def declarationKind? : Parse (Option DeclarationKind) := do
  if ← atWord "var".toList then return some .varKind
  else if ← atWord "const".toList then return some .constKind
  else if (← atWord "let".toList) && (← letFollowed) then return some .letKind
  else return none

def ifStatement (grammar : Grammar) (start : Nat) : Parse Node := do
  let test ← parenthesizedTest grammar
  let consequent ← nestedStatement grammar
  let alternative ← if ← eatWord "else".toList then some <$> nestedStatement grammar
    else pure none
  return .conditionalStatement start test consequent alternative

def whileStatement (grammar : Grammar) (start : Nat) : Parse Node := do
  let test ← parenthesizedTest grammar
  return .whileLoop start test (← loopBody grammar)

def doStatement (grammar : Grammar) (start : Nat) : Parse Node := do
  let body ← loopBody grammar
  expectWord "while".toList
  let test ← parenthesizedTest grammar
  let _ ← eatStatementEnd
  return .doLoop start test body

inductive LoopHead where
  | counted (initial test step : Option Node)
  | members (left right : Node) (byOf : Bool)

def LoopHead.byOf : LoopHead → Bool
  | .counted .. => false
  | .members _ _ byOf => byOf

def LoopHead.loop (start : Nat) (body : Node) : LoopHead → Node
  | .counted initial test step => .countedLoop start initial test step body
  | .members left right _ => .memberLoop start left right body

def memberHead (grammar : Grammar) (left : Node) : Parse LoopHead := do
  if ← eatWord "of".toList then return .members left (← withIn grammar.assignment) true
  else
    expectWord "in".toList
    return .members left (← withIn (expression grammar)) false

def countedHead (grammar : Grammar) (initial : Option Node) : Parse LoopHead := do
  let test ← if ← eat .semicolon then pure none
    else do
      let test ← withIn (expression grammar)
      expect .semicolon
      pure (some test)
  let step ← if ← at? .parenClose then pure none else some <$> withIn (expression grammar)
  return .counted initial test step

def declarationHead (grammar : Grammar) (kind : DeclarationKind) : Parse LoopHead := do
  let start ← line
  advance
  let items ← within
    (fun scope => { scope with inOperator := kind != .varKind }) (declarators grammar kind true)
  let left := Node.declaration start (items.map (·.node))
  if ← atLoopWord then
    match items with
    | [item] => if kind != .varKind && item.hasValue then note .valueInLoopHead item.line
    | _ => (items.drop 1).forM (fun item => note .oneBindingExpected item.line)
    memberHead grammar left
  else
    expect .semicolon
    countedHead grammar (some left)

def loopHead (grammar : Grammar) : Parse LoopHead := do
  match ← declarationKind? with
  | some kind => declarationHead grammar kind
  | none =>
      if ← eat .semicolon then countedHead grammar none
      else
        let initial ← expression grammar
        if ← atLoopWord then
          checkTarget initial
          memberHead grammar initial
        else
          expect .semicolon
          countedHead grammar (some initial)

def forStatement (grammar : Grammar) (start : Nat) : Parse Node := do
  let awaitLine ← line
  let awaits ← eatWord "await".toList
  expect .parenOpen
  let head ← within (Scope.forLoopHead awaits) (loopHead grammar)
  expect .parenClose
  let body ← loopBody grammar
  if awaits && !head.byOf then failAt .awaitLoopWithoutOf awaitLine
  return head.loop start body

def caseStatement (grammar : Grammar) : Parse (Option Node) := do
  match ← token with
  | .mark .braceClose => return none
  | .finish => return none
  | _ =>
      if (← atWord "case".toList) || (← atWord "default".toList) then return none
      else return some (← grammar.statement true)

def switchCase (grammar : Grammar) (defaultSeen : Bool) : Parse (Option (Node × Bool)) := do
  let start ← line
  if ← eatWord "case".toList then
    let test ← withIn (expression grammar)
    expect .colon
    let statements ← collect (caseStatement grammar)
    return some (.switchCase start (some test) statements, defaultSeen)
  else if ← atWord "default".toList then
    advance
    if defaultSeen then failAt .duplicateDefault start
    expect .colon
    let statements ← collect (caseStatement grammar)
    return some (.switchCase start none statements, true)
  else return none

def switchStep (grammar : Grammar) (read : List Node × Bool) : Parse (Option (List Node × Bool)) := do
  match ← switchCase grammar read.2 with
  | some (node, seen) => return some (read.1 ++ [node], seen)
  | none => return none

def switchStatement (grammar : Grammar) (start : Nat) : Parse Node := do
  let subject ← parenthesizedTest grammar
  expect .braceOpen
  let (cases, _) ← within Scope.inSwitch (grow (switchStep grammar) ([], false))
  expect .braceClose
  return .switchStatement start subject cases

def catchClause (grammar : Grammar) : Parse (Option Node) := do
  let start ← line
  if ← eatWord "catch".toList then
    let binding ← if ← eat .parenOpen then do
        let target ← bindingTarget grammar
        expect .parenClose
        pure (some target)
      else pure none
    return some (.catchClause start binding (← block grammar))
  else return none

def finallyClause (grammar : Grammar) : Parse (Option Node) := do
  if ← eatWord "finally".toList then some <$> block grammar else return none

def tryStatement (grammar : Grammar) (start : Nat) : Parse Node := do
  let body ← block grammar
  unless (← atWord "catch".toList) || (← atWord "finally".toList) do
    noteHere .semicolonExpected
  let handler ← catchClause grammar
  let finalizer ← finallyClause grammar
  return .tryStatement start body handler finalizer

/-- A handler without a `try` before it is noted and read, whatever is in it. -/
def strayHandler (grammar : Grammar) : Parse Node := do
  let start ← line
  noteHere .semicolonExpected
  let _ ← attempt (catchClause grammar)
  let _ ← attempt (finallyClause grammar)
  return .invalid start

def returnStatement (grammar : Grammar) (start : Nat) : Parse Node := do
  let value ← if ← atStatementEnd then pure none else some <$> withIn (expression grammar)
  expectStatementEnd
  unless (← scope).inFunction do note .returnOutsideFunction start
  return .returnStatement start value

def throwStatement (grammar : Grammar) (start : Nat) : Parse Node := do
  if ← newline then fail .lineBreakAfterThrow
  let value ← withIn (expression grammar)
  expectStatementEnd
  return .throwStatement start value

def jumpLabel : Parse (Option Text) := do
  if ← eatStatementEnd then return none
  else
    let label ← identifierText
    expectStatementEnd
    return some label

def breakStatement (start : Nat) : Parse Node := do
  let label ← jumpLabel
  let place ← scope
  match label with
  | some label =>
      if !place.labels.contains label then note .breakWithoutLabel start
      else if !place.breakAllowed then note .breakOutsideLoop start
  | none => if !place.breakAllowed then note .breakOutsideLoop start
  return .jumpStatement start

def continueStatement (start : Nat) : Parse Node := do
  let label ← jumpLabel
  let place ← scope
  let known := match label with
    | some label => place.labels.contains label
    | none => true
  unless place.continueAllowed && known do note .continueOutsideLoop start
  return .jumpStatement start

def withStatement (grammar : Grammar) (start : Nat) : Parse Node := do
  let subject ← parenthesizedTest grammar
  return .withStatement start subject (← nestedStatement grammar)

def labelledStatement (grammar : Grammar) (start : Nat) (label : Text) : Parse Node := do
  let repeated := (← scope).labels.contains label
  let bodyLine ← line
  let body ← within (Scope.labelled label) do
    if ← atWord "function".toList then
      let body ← functionFromWord grammar bodyLine false true
      note .labelledFunction bodyLine
      return body
    else grammar.statement false
  if repeated then note (.duplicateLabel label) start
  return .labelled start body

/-- An expression as a statement stands for itself. Where an operator follows it, that is noted and
the expression goes on. -/
def endExpressionStatement (grammar : Grammar) (node : Node) : Parse Node := do
  if ← eatStatementEnd then return node
  else match ← operator? with
  | some _ =>
      noteHere .semicolonExpected
      binaryTail grammar node 0
  | none => fail .statementEndExpected

def expressionStatement (grammar : Grammar) : Parse Node := do
  let node ← withIn (expression grammar)
  match node with
  | .identifier start label =>
      if ← eat .colon then labelledStatement grammar start label
      else endExpressionStatement grammar node
  | _ => endExpressionStatement grammar node

/-- A declaration of a managed resource begins with `using`, and a name on the same line. -/
def managedWord (lexeme : Lexeme) : Bool :=
  if lexeme.token = .word "using".toList false then
    let next := Lexeme.next lexeme.after
    match next.token with
    | .word text _ => !next.newline && !Word.isKeyword text
    | _ => false
  else false

def managedFollows : Parse Bool := do
  return managedWord (← current)

def awaitedManagedFollows : Parse Bool := do
  if ← atWord "await".toList then return managedWord (← peek) else return false

/-- Such a declaration is read, but not part of the language here. -/
def managedDeclaration (grammar : Grammar) (start : Nat) : Parse Node := do
  advance
  let items ← withIn (declarators grammar .varKind false)
  note .managedDeclaration start
  endDeclaration grammar
  return .declaration start (items.map (·.node))

def functionDeclaration (grammar : Grammar) (declarations : Bool) : Parse Node := do
  let start ← line
  unless declarations do note .declarationNotAllowed start
  functionFromWord grammar start false true

def classDeclaration (grammar : Grammar) (declarations : Bool) : Parse Node := do
  let start ← line
  unless declarations do note .declarationNotAllowed start
  classFromWord grammar start true

def asyncFunctionDeclaration (grammar : Grammar) : Parse Node := do
  let start ← line
  advance
  functionFromWord grammar start true true

/-- `import` may begin an expression; any other use of it, and `export`, belongs to a module. -/
def atModuleWord : Parse Bool := do
  if ← atWord "export".toList then return true
  else if ← atWord "import".toList then
    match (← peek).token with
    | .mark .parenOpen => return false
    | .mark .dot => return false
    | _ => return true
  else return false

def importCallStatement (grammar : Grammar) : Parse Node := do
  let node ← withIn (expression grammar)
  let _ ← eatStatementEnd
  return node

def wordStatement? (grammar : Grammar) (declarations : Bool) (text : Text) :
    Parse (Option Node) := do
  let start ← line
  if text = "break".toList then some <$> after (breakStatement start)
  else if text = "continue".toList then some <$> after (continueStatement start)
  else if text = "debugger".toList then
    advance
    expectStatementEnd
    return some (.emptyStatement start)
  else if text = "do".toList then some <$> after (doStatement grammar start)
  else if text = "for".toList then some <$> after (forStatement grammar start)
  else if text = "function".toList then some <$> functionDeclaration grammar declarations
  else if text = "class".toList then some <$> classDeclaration grammar declarations
  else if text = "if".toList then some <$> after (ifStatement grammar start)
  else if text = "return".toList then some <$> after (returnStatement grammar start)
  else if text = "switch".toList then some <$> after (switchStatement grammar start)
  else if text = "throw".toList then some <$> after (throwStatement grammar start)
  else if text = "catch".toList || text = "finally".toList then some <$> strayHandler grammar
  else if text = "try".toList then some <$> after (tryStatement grammar start)
  else if text = "with".toList then
    note .withStatement start
    some <$> after (withStatement grammar start)
  else if text = "while".toList then some <$> after (whileStatement grammar start)
  else if text = "var".toList then some <$> declaration grammar .varKind
  else if text = "const".toList && declarations then some <$> declaration grammar .constKind
  else if text = "let".toList && declarations && (← letFollowed) then
    some <$> declaration grammar .letKind
  else if text = "import".toList then some <$> importCallStatement grammar
  else return none
where
  after (parser : Parse Node) : Parse Node := do
    advance
    parser

def statement (grammar : Grammar) (declarations : Bool) : Parse Node := do
  if ← atModuleWord then fail .nestedImportOrExport
  else match ← token with
  | .mark .braceOpen => block grammar
  | .mark .semicolon =>
      let start ← line
      advance
      return .emptyStatement start
  | .word text false =>
      match ← wordStatement? grammar declarations text with
      | some node => return node
      | none =>
          if ← asyncFunctionFollows then asyncFunctionDeclaration grammar
          else if declarations && (← managedFollows) then managedDeclaration grammar (← line)
          else if declarations && (← awaitedManagedFollows) then
            let start ← line
            advance
            managedDeclaration grammar start
          else expressionStatement grammar
  | _ => expressionStatement grammar

end Parse

end MessageHarvest.Script
