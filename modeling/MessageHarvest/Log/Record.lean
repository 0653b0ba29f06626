import MessageHarvest.Text.Replace

namespace MessageHarvest

inductive LogLevel where
  | error
  | warn
  | info
  | debug
  deriving Repr, DecidableEq

namespace LogLevel

/-- Lower ranks are more severe. -/
def rank : LogLevel → Nat
  | .error => 1
  | .warn => 2
  | .info => 3
  | .debug => 4

def name : LogLevel → Text
  | .error => "error".toList
  | .warn => "warn".toList
  | .info => "info".toList
  | .debug => "debug".toList

def ofText? (text : Text) : Option LogLevel :=
  if text = "error".toList then some .error
  else if text = "warn".toList || text = "warning".toList then some .warn
  else if text = "info".toList then some .info
  else if text = "debug".toList then some .debug
  else none

def shownUnder (threshold level : LogLevel) : Bool := level.rank ≤ threshold.rank

def tag : LogLevel → Text
  | .error => "ERROR: ".toList
  | .warn => "Warning: ".toList
  | .info => []
  | .debug => "DEBUG: ".toList

end LogLevel

structure LogRecord where
  level : LogLevel
  message : Text
  context : List (Text × Text)
  deriving Repr, DecidableEq

namespace LogRecord

def get? (record : LogRecord) (key : Text) : Option Text :=
  (record.context.find? (fun entry => entry.1 = key)).map (·.2)

def placeholder (key : Text) : Text := '\x7b' :: key ++ ['\x7d']

/-- The values are put in one after another, in the order of the context. -/
def interpolateFrom (message : Text) (context : List (Text × Text)) : Text :=
  context.foldl (fun text entry => Text.replace (placeholder entry.1) entry.2 text) message

def interpolate (record : LogRecord) : Text := interpolateFrom record.message record.context

end LogRecord

abbrev Log := List LogRecord

end MessageHarvest
