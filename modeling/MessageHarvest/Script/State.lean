import MessageHarvest.Script.MarkupLexeme
import MessageHarvest.Script.Regexp

namespace MessageHarvest.Script

namespace Lexeme

def afterRegexp (lexeme : Lexeme) : Lexeme := next (RegexpReading.ofCursor lexeme.start).after

def brokenRegexp (report : Report) (lexeme : Lexeme) : Lexeme :=
  { lexeme with
    token := .broken report, notes := [], after := (RegexpReading.ofCursor lexeme.start).after }

def templateChunk (lexeme : Lexeme) : Lexeme :=
  let cut := Cut.template lexeme.start
  { lexeme with token := cut.token, notes := cut.notes, after := cut.after }

def firstGreater (lexeme : Lexeme) : Lexeme :=
  { lexeme with token := .mark .greater, notes := [], after := lexeme.start.advance }

inductive Follows : Lexeme → Lexeme → Prop
  | next (lexeme : Lexeme) : Follows lexeme (next lexeme.after)
  | afterRegexp (lexeme : Lexeme) : Follows lexeme lexeme.afterRegexp
  | brokenRegexp (report : Report) (lexeme : Lexeme) : Follows lexeme (lexeme.brokenRegexp report)
  | templateChunk (lexeme : Lexeme) : Follows lexeme lexeme.templateChunk
  | firstGreater (lexeme : Lexeme) (greater : lexeme.start.rest.head? = some '>') :
      Follows lexeme lexeme.firstGreater
  | markup (lexeme : Lexeme) : Follows lexeme (markupLexeme lexeme.after)
  | markupWord (lexeme : Lexeme) : Follows lexeme (markupWordNext lexeme)
  | markupValue (lexeme : Lexeme) : Follows lexeme (markupValue lexeme.after)

end Lexeme

structure State where
  current : Lexeme
  previousLine : Nat
  notes : List Report
  deriving Repr

namespace State

def record (report : Report) (state : State) : State :=
  { state with notes := report :: state.notes }

def replace (lexeme : Lexeme) (state : State) : State :=
  { state with current := lexeme, notes := lexeme.notes.reverse ++ state.notes }

def enter (lexeme : Lexeme) (state : State) : State :=
  { state.replace lexeme with previousLine := state.current.start.line }

inductive Reaches (start : State) : State → Prop
  | refl : Reaches start start
  | record {state : State} (report : Report) (before : Reaches start state) :
      Reaches start (state.record report)
  | replace {state : State} {lexeme : Lexeme} (before : Reaches start state)
      (follows : Lexeme.Follows state.current lexeme) : Reaches start (state.replace lexeme)
  | enter {state : State} {lexeme : Lexeme} (before : Reaches start state)
      (follows : Lexeme.Follows state.current lexeme) : Reaches start (state.enter lexeme)

theorem Reaches.trans {a b c : State} (first : Reaches a b) (second : Reaches b c) :
    Reaches a c := by
  induction second with
  | refl => exact first
  | record report _ ih => exact ih.record report
  | replace _ follows ih => exact ih.replace follows
  | enter _ follows ih => exact ih.enter follows

end State

end MessageHarvest.Script
