import MessageHarvest.Script.Class
import MessageHarvest.Script.Markup
import MessageHarvest.Script.Regexp
import MessageHarvest.Script.Target

/-!
Expressions, from single operands up to lists separated by commas.

An arrow function may begin only where an assignment may. `arrows` tells the first operand whether
that is still so.
-/

namespace MessageHarvest.Script

namespace Parse

def isArrow : Node → Bool
  | .arrow .. => true
  | _ => false

def literal (build : (line : Nat) → Node) : Parse Node := do
  let start ← line
  advance
  return build start

def regexpLiteral : Parse Node := do
  let start := (← current).start
  match RegexpReading.ofCursor start with
  | .literal notes _ =>
      advanceTo Lexeme.afterRegexp .afterRegexp
      notes.forM record
      return .literal start.line
  | .broken report _ =>
      recut (Lexeme.brokenRegexp report) (.brokenRegexp report)
      restuck report

def arrowFrom (grammar : Grammar) (start : Nat) (isAsync : Bool) (comma : Option Nat)
    (items : List Node) : Parse Node := do
  expect .arrow
  checkParameters comma items
  let body ← arrowBody grammar isAsync (items.all isIdentifier)
  return .arrow start items body

def mayBeParameter : Node → Bool
  | .spread _ argument => isIdentifier argument
  | node => isIdentifier node

/-- An item between parentheses that may turn out to hold parameters. A name before an arrow on a
later line is taken with its body and the parenthesis after it. -/
def parenthesizedItem (grammar : Grammar) : Parse (Option (List Node × Option Nat)) := do
  let start ← line
  if ← at? .parenClose then return none
  else
    let item ← spreadOrAssignment grammar
    let others ← if ← at? .arrow then
        if mayBeParameter item then do
          let arrow ← arrowFrom grammar start false none [item]
          expect .parenClose
          pure [arrow]
        else do
          advance
          pure []
      else pure []
    return some (item :: others, ← separator .parenClose)

def noteShorthandDefaults : List Node → Parse Unit
  | [] => pure ()
  | .shorthandDefault line _ _ :: nodes => do
      note .shorthandDefault line
      noteShorthandDefaults nodes
  | _ :: nodes => noteShorthandDefaults nodes

def noteObjectDefaults : List Node → Parse Unit
  | [] => pure ()
  | .object _ properties _ :: nodes => do
      noteShorthandDefaults properties
      noteObjectDefaults nodes
  | _ :: nodes => noteObjectDefaults nodes

def failOnSpread : List Node → Parse Unit
  | [] => pure ()
  | .spread line _ :: _ => failAt .spreadInParentheses line
  | _ :: nodes => failOnSpread nodes

def parentheses (grammar : Grammar) (arrows : Bool) (caller : Option Nat) : Parse Node := do
  let start ← line
  expect .parenOpen
  let listed ← collect (parenthesizedItem grammar)
  expect .parenClose
  let items := listed.flatMap (·.1)
  if ← at? .arrow then
    if ← newline then failAt .lineBreakBeforeArrow start
    else if !arrows then failAt .arrowNotAllowed start
    else arrowFrom grammar (caller.getD start) caller.isSome (lastComma listed) items
  else
    noteObjectDefaults items
    match caller with
    | some asyncLine =>
        return .call asyncLine (.identifier asyncLine "async".toList) items
    | none =>
        failOnSpread items
        match items with
        | [] => failAt .emptyParentheses start
        | [item] => return .parenthesized start item
        | _ => return .parenthesized start (.sequence start items)

def identifierExpression (grammar : Grammar) (arrows : Bool) (text : Text) : Parse Node := do
  let start ← line
  advance
  checkIdentifier text start
  let target := Node.identifier start text
  let sameLine := !(← newline)
  if arrows && text = "async".toList && sameLine && (← at? .parenOpen) then
    parentheses grammar arrows (some start)
  else if arrows && text = "async".toList && sameLine && (← atReference) then
    if ← atLoopTarget then
      unless (← scope).inAwaitLoopHead do note .asyncLoopTarget start
      return target
    else
      let parameter ← bindingIdentifier
      arrowFrom grammar start true none [parameter]
  else if arrows && sameLine && (← at? .arrow) then arrowFrom grammar start false none [target]
  else return target
where
  atReference : Parse Bool := do
    match ← token with
    | .word next _ => return !Word.isKeyword next
    | _ => return false
  atLoopTarget : Parse Bool := do
    if (← scope).inLoopHead && (← atWord "of".toList) then
      return (← peek).token != .mark .arrow
    else return false

def asyncFunctionFollows : Parse Bool := do
  if ← atWord "async".toList then
    let next ← peek
    return next.token = .word "function".toList false && !next.newline
  else return false

def wordExpression (grammar : Grammar) (arrows : Bool) (text : Text) (escaped : Bool) :
    Parse Node := do
  let start ← line
  if escaped then identifierExpression grammar arrows text
  else if text = "this".toList then literal .this
  else if text = "null".toList || text = "true".toList || text = "false".toList then
    literal .literal
  else if text = "function".toList then functionFromWord grammar start false false
  else if text = "class".toList then classFromWord grammar start false
  else if ← asyncFunctionFollows then
    advance
    functionFromWord grammar start true false
  else if Word.isReference text || text = "let".toList then
    identifierExpression grammar arrows text
  else fail .expressionExpected

def primary (grammar : Grammar) (arrows : Bool) : Parse Node := do
  let start ← line
  match ← token with
  | .word text escaped => wordExpression grammar arrows text escaped
  | .number => literal .literal
  | .bigNumber => literal .literal
  | .string value => literal (.string · value)
  | .template _ _ => template grammar false
  | .mark .parenOpen => parentheses grammar arrows none
  | .mark .bracketOpen => arrayLiteral grammar
  | .mark .braceOpen => objectLiteral grammar
  | .mark .slash => regexpLiteral
  | .mark .slashAssign => regexpLiteral
  | .mark .hash =>
      let _ ← privateName
      return .privateName start
  | _ => fail .expressionExpected

def inChain : Node → Bool
  | .chain .. => true
  | _ => false

def chained (optional : Bool) (base : Node) : Node :=
  if optional then .chain base.line base else base

def propertyAccess (node : Node) (optional : Bool) : Parse Node := do
  if ← at? .hash then
    let _ ← privateName
    return chained optional (.privateMember node.line node)
  else
    let name ← nameText
    return chained optional (.member node.line node name)

def computedAccess (grammar : Grammar) (node : Node) (optional : Bool) : Parse Node := do
  expect .bracketOpen
  let index ← withIn grammar.expression
  expect .bracketClose
  return chained optional (.computedMember node.line node index)

def callOf (grammar : Grammar) (node : Node) (optional : Bool) : Parse Node := do
  let items ← arguments grammar
  return if optional then .chain node.line (.optionalCall node.line node items)
    else .call node.line node items

def subscript (grammar : Grammar) (calls : Bool) (node : Node) : Parse (Option Node) := do
  let optional := inChain node
  match ← token with
  | .mark .dot =>
      advance
      return some (← propertyAccess node optional)
  | .mark .bracketOpen => return some (← computedAccess grammar node optional)
  | .mark .parenOpen =>
      if calls then return some (← callOf grammar node optional) else return none
  | .mark .chain =>
      advance
      if ← at? .parenOpen then return some (← callOf grammar node true)
      else if ← at? .bracketOpen then return some (← computedAccess grammar node true)
      else return some (← propertyAccess node true)
  | .template _ _ =>
      if optional then noteHere .templateInChain
      return some (.taggedTemplate node.line node (← template grammar true))
  | _ => return none

def subscripts (grammar : Grammar) (calls : Bool) (node : Node) : Parse Node :=
  grow (subscript grammar calls) node

/-- `super` is followed by an access or, where calls are allowed, by arguments. -/
def superExpression (grammar : Grammar) (calls : Bool) : Parse Node := do
  let start ← line
  advance
  match ← token with
  | .mark .parenOpen =>
      if calls then subscripts grammar calls (.superWord start)
      else failAt .superCall start
  | .mark .dot => access start
  | .mark .bracketOpen => access start
  | _ => failAt .superAccess start
where
  access (start : Nat) : Parse Node := do
    if (← scope).superAllowed then subscripts grammar calls (.superWord start)
    else failAt .superAccess start

def importExpression (grammar : Grammar) (calls : Bool) : Parse Node := do
  let start ← line
  advance
  if ← eat .dot then
    if ← eatWord "meta".toList then subscripts grammar calls (.metaProperty start)
    else failUnexpected "meta".toList
  else
    let node ← callOf grammar (.importWord start) false
    subscripts grammar calls node

def newTarget (grammar : Grammar) (start : Nat) : Parse Node := do
  if ← eatWord "target".toList then
    unless (← scope).newTargetAllowed do note .newTargetOutsideFunction start
    subscripts grammar false (.metaProperty start)
  else failUnexpected "target".toList

def newExpression (grammar : Grammar) : Parse Node := do
  let start ← line
  advance
  if ← eat .dot then newTarget grammar start
  else
    let constructor ← grammar.construction
    if isArrow constructor then return constructor
    else if inChain constructor then failAt .constructionOfChain constructor.line
    else if ← at? .parenOpen then
      let items ← arguments grammar
      subscripts grammar false (.construction start constructor items)
    else return .construction start constructor []

def construction (grammar : Grammar) (arrows : Bool) : Parse Node := do
  if ← atWord "new".toList then newExpression grammar
  else if ← atWord "super".toList then superExpression grammar false
  else if ← atWord "import".toList then importExpression grammar false
  else
    let node ← primary grammar arrows
    if isArrow node then return node else subscripts grammar false node

/-- A tag begins with `<`, but not where `!` follows. -/
def atMarkup : Parse Bool := do
  if ← at? .less then return (← peek).token != .mark .bang
  else return false

def operand (grammar : Grammar) (arrows : Bool) : Parse Node := do
  if ← atMarkup then markup grammar false
  else if ← atWord "super".toList then superExpression grammar true
  else if ← atWord "import".toList then importExpression grammar true
  else
    let node ← construction grammar arrows
    if isArrow node then return node else subscripts grammar true node

def atUnaryWord : Parse Bool := do
  return (← atWord "delete".toList) || (← atWord "void".toList) || (← atWord "typeof".toList)

/-- The operand of an operator that stands before it. A fault in the operand is noted, and the
expression goes on without it. -/
def unaryOperation (grammar : Grammar) : Parse Node := do
  let start ← line
  let deletes ← atWord "delete".toList
  advance
  match ← attempt grammar.unary with
  | .error report =>
      record report
      return .unary start none
  | .ok node =>
      if deletes && isIdentifier node then note .deleteIdentifier node.line
      return .unary start (some node)

def prefixUpdate (grammar : Grammar) : Parse Node := do
  let start ← line
  advance
  let node ← grammar.unary
  checkUpdated node
  return .update start node

def endsAwait (token : Token) : Bool :=
  match token with
  | .finish => true
  | .mark .parenClose => true
  | .mark .bracketClose => true
  | .mark .braceClose => true
  | .mark .comma => true
  | .mark .semicolon => true
  | _ => false

def awaitExpression (grammar : Grammar) : Parse Node := do
  let start ← line
  advance
  let place ← scope
  if ← at? .star then fail .awaitStar
  else if !place.inAsync && endsAwait (← token) then
    note .awaitAsIdentifier start
    return .identifier start "await".toList
  else
    if place.inFunction && !place.inAsync then note .awaitInPlainFunction start
    if place.inParameters && !place.inFunction then note .awaitInParameters start
    return .awaiting start (← grammar.unary)

def postfixUpdate (grammar : Grammar) (arrows : Bool) : Parse Node := do
  let node ← operand grammar arrows
  if isArrow node then return node
  else if ← newline then return node
  else if (← at? .increment) || (← at? .decrement) then
    checkUpdated node
    advance
    return .update node.line node
  else return node

def unary (grammar : Grammar) (arrows : Bool) : Parse Node := do
  match ← token with
  | .mark .increment => prefixUpdate grammar
  | .mark .decrement => prefixUpdate grammar
  | .mark .plus => unaryOperation grammar
  | .mark .minus => unaryOperation grammar
  | .mark .tilde => unaryOperation grammar
  | .mark .bang => unaryOperation grammar
  | _ =>
      if ← atUnaryWord then unaryOperation grammar
      else if ← atWord "await".toList then awaitExpression grammar
      else postfixUpdate grammar arrows

def operator? : Parse (Option (Nat × OperatorKind)) := do
  match ← token with
  | .mark mark =>
      match mark.precedence? with
      | some precedence =>
          if mark = .nullish then return some (precedence, .nullish)
          else if mark = .both || mark = .either then return some (precedence, .logical)
          else return some (precedence, .plain)
      | none => return none
  | .word text false =>
      if text = "instanceof".toList then return some (7, .plain)
      else if text = "in".toList && (← scope).inOperator then return some (7, .plain)
      else return none
  | _ => return none

def isBinary (kind : OperatorKind) : Node → Bool
  | .binary _ other _ _ => other = kind
  | _ => false

/-- `??` does not mix with `&&` and `||` unless parentheses part them. -/
def noteMixedNullish (kind : OperatorKind) (left right : Node) : Parse Unit := do
  if kind = .nullish then
    if isBinary .logical left then note .mixedNullish left.line
    if isBinary .logical right then note .mixedNullish right.line
  else if kind = .logical && isBinary .nullish left then note .mixedNullish left.line

def isPrefixed : Node → Bool
  | .unary .. | .awaiting .. => true
  | _ => false

def binaryStep (grammar : Grammar) (minimum : Nat) (left : Node) : Parse (Option Node) := do
  match ← operator? with
  | none => return none
  | some (precedence, kind) =>
      if precedence ≤ minimum then return none
      else
        let power ← at? .power
        if power && isPrefixed left then fail .powerOfUnary
        advance
        let first ← grammar.unary
        let right ← grammar.binaryTail first (if power then precedence - 1 else precedence)
        noteMixedNullish kind left right
        return some (.binary left.line kind left right)

def binaryTail (grammar : Grammar) (left : Node) (minimum : Nat) : Parse Node :=
  grow (binaryStep grammar minimum) left

/-- The first operand of a binary expression. Where it is missing and an operator stands in its
place, that is noted and the expression goes on. -/
def firstOperand (grammar : Grammar) (arrows : Bool) : Parse Node := do
  let start ← line
  match ← attempt (unary grammar arrows) with
  | .ok node => return node
  | .error report =>
      match ← token with
      | .broken broken => restuck broken
      | _ =>
          match ← operator? with
          | some _ =>
              noteHere .expressionExpected
              return .invalid start
          | none => restuck report

def binary (grammar : Grammar) (arrows : Bool) : Parse Node := do
  let left ← firstOperand grammar arrows
  if isArrow left then return left else binaryTail grammar left 0

def conditional (grammar : Grammar) (arrows : Bool) : Parse Node := do
  let test ← binary grammar arrows
  if isArrow test then return test
  else if ← eat .question then
    let consequent ← withIn grammar.assignment
    expect .colon
    let alternative ← grammar.assignment
    return .conditional test.line test consequent alternative
  else return test

def startsExpression (token : Token) : Bool :=
  match token with
  | .word text _ =>
      !Word.isKeyword text || ["this".toList, "null".toList, "true".toList, "false".toList,
        "function".toList, "class".toList, "new".toList, "super".toList, "import".toList,
        "typeof".toList, "void".toList, "delete".toList].contains text
  | .number | .bigNumber | .string _ | .template _ _ | .broken _ => true
  | .mark mark =>
      [Mark.parenOpen, .bracketOpen, .braceOpen, .bang, .tilde, .plus, .minus, .increment,
        .decrement, .less, .hash, .slash, .slashAssign, .star].contains mark
  | _ => false

def yieldExpression (grammar : Grammar) : Parse Node := do
  let start ← line
  advance
  let place ← scope
  if place.inParameters && !place.inFunction then note .yieldInParameters start
  if (← newline) || !startsExpression (← token) then return .yielding start none
  else
    let _ ← eat .star
    return .yielding start (some (← grammar.assignment))

/-- Operators of higher rank than assignment take no assignment after them. -/
def isClosed : Node → Bool
  | .conditional .. | .binary .. | .unary .. | .update .. | .arrow .. => true
  | _ => false

def assignment (grammar : Grammar) : Parse Node := do
  if (← scope).inGenerator && (← atWord "yield".toList) then yieldExpression grammar
  else
    let left ← conditional grammar true
    if isClosed left then return left
    else match ← token with
    | .mark mark =>
        if mark.isAssignment then
          if mark = .assign then checkTarget left else checkCompoundTarget left
          advance
          let right ← grammar.assignment
          return .assignment left.line (mark = .assign) left right
        else return left
    | _ => return left

def expressionStep (grammar : Grammar) : Parse (Option Node) := do
  if ← eat .comma then return some (← grammar.assignment) else return none

def expression (grammar : Grammar) : Parse Node := do
  let first ← assignment grammar
  match ← collect (expressionStep grammar) with
  | [] => return first
  | others => return .sequence first.line (first :: others)

end Parse

end MessageHarvest.Script
