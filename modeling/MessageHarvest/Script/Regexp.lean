import MessageHarvest.Script.Lexeme

/-!
Regular expression literals: delimiters, classes and flags. What stands between the delimiters is not
examined further.
-/

namespace MessageHarvest.Script

inductive RegexpBody where
  | closed (rest : Text)
  | cut (rest : Text)
  deriving Repr, DecidableEq

/-- A slash inside a class or after a backslash does not close the body. -/
def RegexpBody.ofText : (escaped inClass : Bool) → Text → RegexpBody
  | _, _, [] => .cut []
  | escaped, inClass, c :: rest =>
      if isLineTerminator c then .cut (c :: rest)
      else if escaped then ofText false inClass rest
      else if c = '\\' then ofText true inClass rest
      else if inClass then ofText false (c != ']') rest
      else if c = '/' then .closed rest
      else ofText false (c = '[') rest

def regexpFlags : Text := "dgimsuvy".toList

def repeated? : Text → Option Char
  | [] => none
  | c :: rest => if regexpFlags.contains c && rest.contains c then some c else repeated? rest

def flagFaults (flags : Text) : List Fault :=
  (if flags.all regexpFlags.contains then [] else [.unknownRegexpFlag]) ++
    match repeated? flags with
    | some flag => [.duplicateRegexpFlag flag]
    | none => []

inductive RegexpReading where
  | literal (notes : List Report) (after : Cursor)
  | broken (report : Report) (after : Cursor)
  deriving Repr, DecidableEq

def RegexpReading.after : RegexpReading → Cursor
  | .literal _ after => after
  | .broken _ after => after

def RegexpReading.ofFlags (line : Nat) (text : Text) : RegexpReading :=
  if text.head?.any Text.startsIdentifier then
    match WordReading.ofText text with
    | .word flags _ after => .literal ((flagFaults flags).map (⟨·, line⟩)) ⟨after, line⟩
    | .malformed fault after => .broken ⟨fault, line⟩ ⟨after, line⟩
  else .literal [] ⟨text, line⟩

def RegexpReading.ofCursor (start : Cursor) : RegexpReading :=
  match RegexpBody.ofText false false start.advance.rest with
  | .closed rest => ofFlags start.line rest
  | .cut rest => .broken ⟨.unterminatedRegexp, start.line⟩ ⟨rest, start.line⟩

end MessageHarvest.Script
