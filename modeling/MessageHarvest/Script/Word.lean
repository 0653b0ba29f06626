import MessageHarvest.Text.Identifier
import MessageHarvest.Script.Escape

namespace MessageHarvest.Script

inductive WordReading where
  | word (text : Text) (escaped : Bool) (rest : Text)
  | malformed (fault : Fault) (rest : Text)
  deriving Repr, DecidableEq

def continuesWord (before : Text) (c : Char) : Bool :=
  match before with
  | [] => Text.startsIdentifier c
  | _ :: _ => Text.continuesIdentifier c

/-- The characters read so far are held in reverse. Every step reads at least one character. -/
def WordReading.continueFrom : (fuel : Nat) → Text → Bool → Text → WordReading
  | 0, before, escaped, rest => .word before.reverse escaped rest
  | fuel + 1, before, escaped, rest =>
      match rest with
      | [] => .word before.reverse escaped []
      | '\\' :: 'u' :: digits =>
          match Escape.unicode digits with
          | .units [code] after =>
              if Text.isScalar code && continuesWord before (Char.ofNat code) then
                continueFrom fuel (Char.ofNat code :: before) true after
              else .malformed .invalidIdentifierCharacter after
          | .malformed fault => .malformed fault digits
          | _ => .malformed .invalidIdentifierCharacter digits
      | '\\' :: after => .malformed .unicodeEscapeExpected after
      | c :: after =>
          if continuesWord before c then continueFrom fuel (c :: before) escaped after
          else .word before.reverse escaped rest

def WordReading.ofText (source : Text) : WordReading :=
  continueFrom (source.length + 1) [] false source

namespace Word

def keywords : List Text := [
  "break".toList, "case".toList, "catch".toList, "class".toList, "const".toList,
  "continue".toList, "debugger".toList, "default".toList, "delete".toList, "do".toList,
  "else".toList, "export".toList, "extends".toList, "false".toList, "finally".toList,
  "for".toList, "function".toList, "if".toList, "import".toList, "in".toList,
  "instanceof".toList, "new".toList, "null".toList, "return".toList, "super".toList,
  "switch".toList, "this".toList, "throw".toList, "true".toList, "try".toList,
  "typeof".toList, "var".toList, "void".toList, "while".toList, "with".toList]

/-- Words that strict code keeps for the language; a binding of one is reported and kept. -/
def strictWords : List Text := [
  "enum".toList, "yield".toList, "let".toList, "static".toList, "implements".toList,
  "interface".toList, "package".toList, "private".toList, "protected".toList, "public".toList]

def notReferences : List Text :=
  keywords ++ [
    "let".toList, "yield".toList, "await".toList, "enum".toList, "implements".toList,
    "package".toList, "protected".toList, "interface".toList, "private".toList, "public".toList]

def isKeyword (word : Text) : Bool := keywords.contains word

def isStrict (word : Text) : Bool := strictWords.contains word

def isReference (word : Text) : Bool := !notReferences.contains word

def isEvalOrArguments (word : Text) : Bool := word = "eval".toList || word = "arguments".toList

end Word

end MessageHarvest.Script
