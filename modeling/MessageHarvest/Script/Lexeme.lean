import MessageHarvest.Script.Token

/-!
Tokens in their place: blanks and comments are skipped before each, and it is known whether a line
ended among them.
-/

namespace MessageHarvest.Script

inductive Skipping where
  | blanks
  | lineComment
  | blockComment
  deriving Repr, DecidableEq

structure Gap where
  start : Cursor
  newline : Bool
  notes : List Report
  deriving Repr, DecidableEq

/-- Skips blanks and comments. A line comment may also be written in the legacy form with `<!--`, or
with `-->` where nothing precedes it on its line; both are reported. -/
def Gap.skip : Skipping → (newline : Bool) → (line : Nat) → List Report → Text → Gap
  | .blanks, newline, line, notes, '/' :: '/' :: rest =>
      skip .lineComment newline line notes rest
  | .blanks, newline, line, notes, '/' :: '*' :: rest =>
      skip .blockComment newline line notes rest
  | .blanks, newline, line, notes, '<' :: '!' :: '-' :: '-' :: rest =>
      skip .lineComment newline line (notes ++ [⟨.legacyComment, line⟩]) rest
  | .blanks, true, line, notes, '-' :: '-' :: '>' :: rest =>
      skip .lineComment true line (notes ++ [⟨.legacyComment, line⟩]) rest
  | .blanks, newline, line, notes, c :: rest =>
      if isLineTerminator c then skip .blanks true (Cursor.lineAfter c rest line) notes rest
      else if isBlank c then skip .blanks newline line notes rest
      else ⟨⟨c :: rest, line⟩, newline, notes⟩
  | .lineComment, newline, line, notes, c :: rest =>
      if isLineTerminator c then skip .blanks true (Cursor.lineAfter c rest line) notes rest
      else skip .lineComment newline line notes rest
  | .blockComment, newline, line, notes, '*' :: '/' :: rest =>
      skip .blanks newline line notes rest
  | .blockComment, newline, line, notes, c :: rest =>
      skip .blockComment (newline || isLineTerminator c) (Cursor.lineAfter c rest line) notes rest
  | .blockComment, newline, line, notes, [] =>
      ⟨⟨[], line⟩, newline, notes ++ [⟨.unterminatedComment, line⟩]⟩
  | _, newline, line, notes, [] => ⟨⟨[], line⟩, newline, notes⟩

structure Lexeme where
  token : Token
  start : Cursor
  newline : Bool
  notes : List Report
  after : Cursor
  deriving Repr, DecidableEq

namespace Lexeme

def afterGap (gap : Gap) : Lexeme :=
  let cut := Cut.ofCursor gap.start
  ⟨cut.token, gap.start, gap.newline, gap.notes ++ cut.notes, cut.after⟩

def next (cursor : Cursor) : Lexeme :=
  afterGap (Gap.skip .blanks false cursor.line [] cursor.rest)

/-- The first token of a source text. A first line that begins with `#!` is skipped, and the start of
the source counts as the start of a line. -/
def first (source : Text) : Lexeme :=
  match source with
  | '#' :: '!' :: rest => afterGap (Gap.skip .lineComment true 1 [] rest)
  | _ => afterGap (Gap.skip .blanks true 1 [] source)

end Lexeme

end MessageHarvest.Script
