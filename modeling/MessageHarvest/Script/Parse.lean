import MessageHarvest.Script.Node
import MessageHarvest.Script.State

/-!
Parsers over the tokens of a script. A parser sees the current token; faults that it can go on from
are noted, and a fault that it cannot go on from ends it, with the state it had reached.
-/

namespace MessageHarvest.Script

structure Scope where
  budget : Nat
  inOperator : Bool
  inAsync : Bool
  inGenerator : Bool
  inFunction : Bool
  inParameters : Bool
  inField : Bool
  superAllowed : Bool
  newTargetAllowed : Bool
  breakAllowed : Bool
  continueAllowed : Bool
  topLevel : Bool
  inLoopHead : Bool
  inAwaitLoopHead : Bool
  labels : List Text
  deriving Repr

/-- The scope of a module: `budget` bounds the number of steps of each loop. -/
def Scope.ofModule (budget : Nat) : Scope where
  budget := budget
  inOperator := true
  inAsync := false
  inGenerator := false
  inFunction := false
  inParameters := false
  inField := false
  superAllowed := false
  newTargetAllowed := false
  breakAllowed := false
  continueAllowed := false
  topLevel := true
  inLoopHead := false
  inAwaitLoopHead := false
  labels := []

inductive Reply (α : Type) where
  | done (value : α) (state : State)
  | stuck (report : Report) (state : State)

def Reply.state {α : Type} : Reply α → State
  | .done _ state => state
  | .stuck _ state => state

structure Parse (α : Type) where
  run : Scope → State → Reply α
  forward : ∀ scope (state : State), state.Reaches (run scope state).state

namespace Parse

variable {α β : Type}

def read (value : Scope → State → α) : Parse α :=
  ⟨fun scope state => .done (value scope state) state, fun _ _ => .refl⟩

def chain (parser : Parse α) (next : α → Parse β) : Parse β where
  run scope state :=
    match parser.run scope state with
    | .done value state => (next value).run scope state
    | .stuck report state => .stuck report state
  forward scope state := by
    have first := parser.forward scope state
    generalize parser.run scope state = reply at first
    cases reply with
    | done value reached => exact first.trans ((next value).forward scope reached)
    | stuck report reached => exact first

instance : Monad Parse where
  pure value := read fun _ _ => value
  bind := chain

instance : Inhabited (Parse α) where
  default := ⟨fun _ state => .stuck ⟨.expressionExpected, state.previousLine⟩ state, fun _ _ => .refl⟩

def within (change : Scope → Scope) (parser : Parse α) : Parse α :=
  ⟨fun scope state => parser.run (change scope) state, fun scope => parser.forward (change scope)⟩

def scope : Parse Scope := read fun scope _ => scope

def current : Parse Lexeme := read fun _ state => state.current

def token : Parse Token := read fun _ state => state.current.token

def line : Parse Nat := read fun _ state => state.current.start.line

def previousLine : Parse Nat := read fun _ state => state.previousLine

def newline : Parse Bool := read fun _ state => state.current.newline

def peek : Parse Lexeme := read fun _ state => Lexeme.next state.current.after

def recut (cut : Lexeme → Lexeme) (follows : ∀ lexeme, Lexeme.Follows lexeme (cut lexeme)) : Parse Unit :=
  ⟨fun _ state => .done () (state.replace (cut state.current)),
    fun _ state => .replace .refl (follows state.current)⟩

def advanceTo (next : Lexeme → Lexeme) (follows : ∀ lexeme, Lexeme.Follows lexeme (next lexeme)) :
    Parse Unit :=
  ⟨fun _ state => .done () (state.enter (next state.current)),
    fun _ state => .enter .refl (follows state.current)⟩

def advance : Parse Unit := advanceTo (fun lexeme => Lexeme.next lexeme.after) .next

def record (report : Report) : Parse Unit :=
  ⟨fun _ state => .done () (state.record report), fun _ _ => .record report .refl⟩

def brokenReport? (state : State) : Option Report :=
  match state.current.token with
  | .broken report => some report
  | _ => none

/-- Notes a fault; one that made the current token unreadable comes first. -/
def note (fault : Fault) (line : Nat) : Parse Unit := do
  match ← read (fun _ => brokenReport?) with
  | some report => record report
  | none => pure ()
  record ⟨fault, line⟩

def noteHere (fault : Fault) : Parse Unit := do
  note fault (← line)

/-- Ends the parse; a fault that made the current token unreadable takes precedence. -/
def failAt (fault : Fault) (line : Nat) : Parse α :=
  ⟨fun _ state => .stuck ((brokenReport? state).getD ⟨fault, line⟩) state, fun _ _ => .refl⟩

def fail (fault : Fault) : Parse α := do
  failAt fault (← line)

def attempt (parser : Parse α) : Parse (Except Report α) where
  run scope state :=
    match parser.run scope state with
    | .done value state => .done (.ok value) state
    | .stuck report state => .done (.error report) state
  forward scope state := by
    have reaches := parser.forward scope state
    generalize parser.run scope state = reply at reaches
    cases reply with
    | done value reached => exact reaches
    | stuck report reached => exact reaches

def restuck (report : Report) : Parse α :=
  ⟨fun _ state => .stuck report state, fun _ _ => .refl⟩

def at? (mark : Mark) : Parse Bool := do
  return (← token) = .mark mark

def atWord (word : Text) : Parse Bool := do
  match ← token with
  | .word text escaped => return text = word && !escaped
  | _ => return false

def atEnd : Parse Bool := do
  return (← token) = .finish

def eat (mark : Mark) : Parse Bool := do
  if ← at? mark then
    advance
    return true
  else return false

def eatWord (word : Text) : Parse Bool := do
  if ← atWord word then
    advance
    return true
  else return false

def failExpected (wanted : Text) : Parse α := do
  fail (.expected wanted (← token).description)

def failUnexpected (wanted : Text) : Parse α := do
  fail (.unexpected (← token).refusal wanted)

def expect (mark : Mark) : Parse Unit := do
  unless ← eat mark do failExpected mark.spelling

def expectWord (word : Text) : Parse Unit := do
  unless ← eatWord word do failExpected word

/-- A statement may end without a semicolon before a closing brace, at the end of the source, and
where a line ends. -/
def atStatementEnd : Parse Bool := do
  match ← token with
  | .finish => return true
  | .mark .semicolon => return true
  | .mark .braceClose => return true
  | _ => newline

def eatStatementEnd : Parse Bool := do
  if ← eat .semicolon then return true
  else atStatementEnd

def expectStatementEnd : Parse Unit := do
  unless ← eatStatementEnd do failExpected Mark.semicolon.spelling

def collectUpTo (step : Parse (Option α)) : Nat → Parse (List α)
  | 0 => default
  | n + 1 => do
      match ← step with
      | none => return []
      | some value => return value :: (← collectUpTo step n)

def collect (step : Parse (Option α)) : Parse (List α) := do
  collectUpTo step (← scope).budget

def growUpTo (step : α → Parse (Option α)) : Nat → α → Parse α
  | 0, value => pure value
  | n + 1, value => do
      match ← step value with
      | none => return value
      | some value => growUpTo step n value

def grow (step : α → Parse (Option α)) (value : α) : Parse α := do
  growUpTo step (← scope).budget value

end Parse

/-- The parsers that others come back to. Every way back reads a token first, so a grammar of as many
levels as the source has characters is as good as an unbounded one. -/
structure Grammar where
  expression : Parse Node
  assignment : Parse Node
  unary : Parse Node
  operand : Parse Node
  construction : Parse Node
  binaryTail : (left : Node) → (minimum : Nat) → Parse Node
  binding : Parse Node
  statement : (declarations : Bool) → Parse Node
  markup : (nested : Bool) → Parse Node

end MessageHarvest.Script
