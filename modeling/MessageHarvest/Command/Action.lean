import MessageHarvest.Files.Tree
import MessageHarvest.Log.Record

/-!
Actions of a command: messages, output, and files that are read and written. An action may fail on
the way; what it did before that stays done.
-/

namespace MessageHarvest.Command

structure Failure where
  message : Text
  causes : List Text
  deriving Repr, DecidableEq

namespace Failure

def numbered : Nat → List Text → Text
  | _, [] => []
  | n, cause :: causes =>
      "    ".toList ++ Text.ofNat n ++ ": ".toList ++ cause ++ '\n' :: numbered (n + 1) causes

def report (failure : Failure) : Text :=
  "Error: ".toList ++ failure.message ++ '\n' ::
    match failure.causes with
    | [] => []
    | [cause] => "\nCaused by:\n    ".toList ++ cause ++ ['\n']
    | causes => "\nCaused by:\n".toList ++ numbered 0 causes

end Failure

structure Message where
  level : LogLevel
  text : Text
  deriving Repr, DecidableEq

namespace Message

def info (text : Text) : Message := ⟨.info, text⟩

def ofRecord (record : LogRecord) : Message := ⟨record.level, record.interpolate⟩

def line (message : Message) : Text := message.level.tag ++ message.text ++ ['\n']

end Message

/-- How far a command has come. A message that the threshold hides is not among those shown. -/
structure Progress where
  threshold : LogLevel
  shown : List Message
  output : Text
  files : FileSystem

namespace Progress

def start (files : FileSystem) : Progress := ⟨.info, [], [], files⟩

def say (message : Message) (progress : Progress) : Progress :=
  if progress.threshold.shownUnder message.level then
    { progress with shown := progress.shown ++ [message] }
  else progress

end Progress

abbrev Action := EStateM Failure Progress

namespace Action

def setThreshold (threshold : LogLevel) : Action Unit :=
  modify fun progress => { progress with threshold := threshold }

def say (message : Message) : Action Unit := modify (Progress.say message)

def sayAll (messages : List Message) : Action Unit := messages.forM say

def print (text : Text) : Action Unit :=
  modify fun progress => { progress with output := progress.output ++ text }

def files : Action FileSystem := do return (← get).files

def attempt {ε α : Type} (failure : ε → Failure) : Except ε α → Action α
  | .ok value => pure value
  | .error error => throw (failure error)

def require (holds : Bool) (failure : Failure) : Action Unit :=
  if holds then pure () else throw failure

def write (path text : Text) (failure : FileError → Failure) : Action Unit := do
  let written ← attempt failure ((← files).write path (Utf8.encode text))
  modify fun progress => { progress with files := written }

end Action

end MessageHarvest.Command
