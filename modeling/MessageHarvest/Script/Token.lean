import MessageHarvest.Text.Quoted
import MessageHarvest.Script.Literal
import MessageHarvest.Script.Mark
import MessageHarvest.Script.Numeral
import MessageHarvest.Script.Word

namespace MessageHarvest.Script

inductive Token where
  | finish
  | word (text : Text) (escaped : Bool)
  | mark (mark : Mark)
  | number
  | bigNumber
  | string (value : Option Text)
  | template (chunk : Chunk) (closed : Bool)
  | markupText
  | broken (report : Report)
  deriving Repr, DecidableEq

namespace Token

def description : Token → Text
  | .finish => "<eof>".toList
  | .word text _ => if Word.isKeyword text then text else "ident".toList
  | .mark punctuator => punctuator.spelling
  | .number => "numeric literal".toList
  | .bigNumber => "bigint literal".toList
  | .string _ => "string literal".toList
  | .template _ _ => "template".toList
  | .markupText => "jsx text".toList
  | .broken _ => "<error>".toList

def refusal : Token → Text
  | .word text _ => text
  | token => token.description

end Token

structure Cut where
  token : Token
  notes : List Report
  after : Cursor
  deriving Repr, DecidableEq

namespace Cut

def string (delimiter : Char) (start : Cursor) : Cut :=
  match StringReading.ofCursor delimiter start.advance with
  | .closed units notes after => ⟨.string (Text.ofUnits? units), notes, after⟩
  | .cut units notes after =>
      ⟨.string (Text.ofUnits? units), notes ++ [⟨.unterminatedString, start.line⟩], after⟩
  | .failed report notes after => ⟨.broken report, notes, after⟩

/-- A chunk of a template literal; `start` is the place of the mark that begins it. -/
def template (start : Cursor) : Cut :=
  match ChunkReading.ofCursor start.advance with
  | .closed chunk after => ⟨.template chunk true, [], after⟩
  | .opened chunk after => ⟨.template chunk false, [], after⟩
  | .unterminated after => ⟨.broken ⟨.unterminatedTemplate, start.line⟩, [], after⟩

def numeral (start : Cursor) : Cut :=
  let read := Numeral.ofText start.rest
  ⟨match read.outcome with
    | .ok true => .bigNumber
    | .ok false => .number
    | .error fault => .broken ⟨fault, start.line⟩,
    read.notes.map (⟨·, start.line⟩), ⟨read.rest, start.line⟩⟩

def word (start : Cursor) : Cut :=
  match WordReading.ofText start.rest with
  | .word text escaped rest =>
      if escaped && (Word.isKeyword text || text = "await".toList || text = "yield".toList) then
        ⟨.broken ⟨.escapedReservedWord text, start.line⟩, [], ⟨rest, start.line⟩⟩
      else ⟨.word text escaped, [], ⟨rest, start.line⟩⟩
  | .malformed fault rest => ⟨.broken ⟨fault, start.line⟩, [], ⟨rest, start.line⟩⟩

def mark (c : Char) (start : Cursor) : Cut :=
  match Mark.ofText? start.rest with
  | some (mark, rest) => ⟨.mark mark, [], ⟨rest, start.line⟩⟩
  | none =>
      ⟨.broken ⟨.unexpectedCharacter (Text.quoteChar c), start.line⟩, [], start.advance⟩

def fractionFirst : Text → Bool
  | '.' :: digit :: _ => digit.isDigit
  | _ => false

def ofCursor (start : Cursor) : Cut :=
  match start.rest with
  | [] => ⟨.finish, [], start⟩
  | c :: _ =>
      if c = '\'' || c = '"' then string c start
      else if c.toNat = 0x60 then template start
      else if c.isDigit || fractionFirst start.rest then numeral start
      else if c = '\\' || Text.startsIdentifier c then word start
      else mark c start

end Cut

end MessageHarvest.Script
