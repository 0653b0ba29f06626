import MessageHarvest.Script.Lexeme

namespace MessageHarvest.Script

/-- Text between tags ends at an opening brace or angle bracket. Closing ones in it are reported. -/
def markupRun : Text → Nat → List Report → Cursor × List Report
  | [], line, notes => (⟨[], line⟩, notes)
  | c :: rest, line, notes =>
      if c = '<' || c = '\x7b' then (⟨c :: rest, line⟩, notes)
      else
        let next := Cursor.lineAfter c rest line
        if c = '\x7d' then
          markupRun rest next
            (notes ++ [⟨.markupText "\x60\x7b'\x7d'\x7d\x60 or \x60&rbrace;\x60".toList, line⟩])
        else if c = '>' then
          markupRun rest next
            (notes ++ [⟨.markupText "\x60\x7b'>'\x7d\x60 or \x60&gt;\x60".toList, line⟩])
        else markupRun rest next notes

def markupLexeme (start : Cursor) : Lexeme :=
  match start.rest with
  | [] => ⟨.finish, start, false, [], start⟩
  | '<' :: '/' :: _ => ⟨.mark .lessSlash, start, false, [], Cursor.advanceBy 2 start⟩
  | '<' :: _ => ⟨.mark .less, start, false, [], start.advance⟩
  | '\x7b' :: _ => ⟨.mark .braceOpen, start, false, [], start.advance⟩
  | _ =>
      let (after, notes) := markupRun start.rest start.line []
      ⟨.markupText, start, false, notes, after⟩

/-- A name in a tag may hold hyphens. -/
def markupWord : Text → Text × Text
  | [] => ([], [])
  | c :: rest =>
      if c = '-' || Text.continuesIdentifier c then
        let (word, after) := markupWord rest
        (c :: word, after)
      else ([], c :: rest)

def markupWordNext (lexeme : Lexeme) : Lexeme :=
  Lexeme.next ⟨(markupWord lexeme.start.rest).2, lexeme.start.line⟩

def markupQuote? (delimiter : Char) : Text → Nat → Option Cursor
  | [], _ => none
  | c :: rest, line =>
      if c = delimiter then some ⟨rest, line⟩
      else markupQuote? delimiter rest (Cursor.lineAfter c rest line)

/-- The token after an equals sign; the value in quotes is cut without escapes. -/
def markupValue (cursor : Cursor) : Lexeme :=
  let gap := Gap.skip .blanks false cursor.line [] cursor.rest
  match gap.start.rest with
  | c :: _ =>
      if c = '\'' || c = '"' then
        match markupQuote? c gap.start.advance.rest gap.start.line with
        | some after => ⟨.string none, gap.start, gap.newline, gap.notes, after⟩
        | none =>
            ⟨.broken ⟨.unterminatedString, gap.start.line⟩, gap.start, gap.newline, gap.notes,
              ⟨[], gap.start.line⟩⟩
      else Lexeme.next cursor
  | [] => Lexeme.next cursor

end MessageHarvest.Script
