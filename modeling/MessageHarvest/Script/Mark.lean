import MessageHarvest.Text.Basic

namespace MessageHarvest.Script

inductive Mark where
  | parenOpen | parenClose | bracketOpen | bracketClose | braceOpen | braceClose
  | semicolon | comma | dot | ellipsis | chain | question | colon | arrow | hash | atSign
  | assign | equal | equalStrict | notEqual | notEqualStrict | bang | tilde
  | less | lessSlash | lessEqual | greater | greaterEqual
  | shiftLeft | shiftRight | shiftUnsigned
  | plus | minus | star | slash | percent | power | increment | decrement
  | ampersand | bar | caret | both | either | nullish
  | plusAssign | minusAssign | starAssign | slashAssign | percentAssign | powerAssign
  | shiftLeftAssign | shiftRightAssign | shiftUnsignedAssign
  | ampersandAssign | barAssign | caretAssign | bothAssign | eitherAssign | nullishAssign
  deriving Repr, DecidableEq

namespace Mark

/-- All punctuators with their spellings, longer ones first. -/
def spellings : List (Text × Mark) := [
  (">>>=".toList, .shiftUnsignedAssign),
  ("...".toList, .ellipsis), ("===".toList, .equalStrict), ("!==".toList, .notEqualStrict),
  (">>>".toList, .shiftUnsigned), ("<<=".toList, .shiftLeftAssign),
  (">>=".toList, .shiftRightAssign), ("**=".toList, .powerAssign), ("&&=".toList, .bothAssign),
  ("||=".toList, .eitherAssign), ("??=".toList, .nullishAssign),
  ("=>".toList, .arrow), ("==".toList, .equal), ("!=".toList, .notEqual), ("<=".toList, .lessEqual),
  (">=".toList, .greaterEqual), ("<<".toList, .shiftLeft), (">>".toList, .shiftRight),
  ("</".toList, .lessSlash), ("**".toList, .power), ("++".toList, .increment),
  ("--".toList, .decrement), ("&&".toList, .both), ("||".toList, .either), ("??".toList, .nullish),
  ("?.".toList, .chain), ("+=".toList, .plusAssign), ("-=".toList, .minusAssign),
  ("*=".toList, .starAssign), ("/=".toList, .slashAssign), ("%=".toList, .percentAssign),
  ("&=".toList, .ampersandAssign), ("|=".toList, .barAssign), ("^=".toList, .caretAssign),
  ("(".toList, .parenOpen), (")".toList, .parenClose), ("[".toList, .bracketOpen),
  ("]".toList, .bracketClose), ("\x7b".toList, .braceOpen), ("\x7d".toList, .braceClose),
  (";".toList, .semicolon), (",".toList, .comma), (".".toList, .dot), ("?".toList, .question),
  (":".toList, .colon), ("#".toList, .hash), ("@".toList, .atSign), ("=".toList, .assign),
  ("!".toList, .bang), ("~".toList, .tilde), ("<".toList, .less), (">".toList, .greater),
  ("+".toList, .plus), ("-".toList, .minus), ("*".toList, .star), ("/".toList, .slash),
  ("%".toList, .percent), ("&".toList, .ampersand), ("|".toList, .bar), ("^".toList, .caret)]

def spelling (mark : Mark) : Text :=
  match spellings.find? (fun entry => entry.2 = mark) with
  | some entry => entry.1
  | none => []

def longestIn : List (Text × Mark) → Text → Option (Mark × Text)
  | [], _ => none
  | (spelled, mark) :: others, source =>
      match Text.dropBeginning? spelled source with
      | some rest => some (mark, rest)
      | none => longestIn others source

/-- The longest punctuator at the front of a source text, and what follows it. Two rules bend the
cut: no optional chain begins before a digit, so that `a?.5:b` is a conditional; and `</` is not cut
before `*`, where a comment begins. -/
def ofText? (source : Text) : Option (Mark × Text) :=
  match source with
  | '?' :: '.' :: digit :: rest =>
      if digit.isDigit then some (.question, '.' :: digit :: rest)
      else some (.chain, digit :: rest)
  | '<' :: '/' :: '*' :: rest => some (.less, '/' :: '*' :: rest)
  | _ => longestIn spellings source

def precedence? : Mark → Option Nat
  | .nullish | .either => some 1
  | .both => some 2
  | .bar => some 3
  | .caret => some 4
  | .ampersand => some 5
  | .equal | .equalStrict | .notEqual | .notEqualStrict => some 6
  | .less | .lessEqual | .greater | .greaterEqual => some 7
  | .shiftLeft | .shiftRight | .shiftUnsigned => some 8
  | .plus | .minus => some 9
  | .star | .slash | .percent => some 10
  | .power => some 11
  | _ => none

def isAssignment : Mark → Bool
  | .assign | .plusAssign | .minusAssign | .starAssign | .slashAssign | .percentAssign
  | .powerAssign | .shiftLeftAssign | .shiftRightAssign | .shiftUnsignedAssign
  | .ampersandAssign | .barAssign | .caretAssign | .bothAssign | .eitherAssign
  | .nullishAssign => true
  | _ => false

theorem longestIn_eq_some {table : List (Text × Mark)} {source rest : Text} {mark : Mark}
    (h : longestIn table source = some (mark, rest)) :
    ∃ spelled, (spelled, mark) ∈ table ∧ source = spelled ++ rest := by
  induction table with
  | nil => simp [longestIn] at h
  | cons entry table ih =>
    obtain ⟨spelled, other⟩ := entry
    simp only [longestIn] at h
    cases hd : Text.dropBeginning? spelled source with
    | none =>
      simp only [hd] at h
      obtain ⟨s, hs, e⟩ := ih h
      exact ⟨s, List.mem_cons_of_mem _ hs, e⟩
    | some r =>
      simp only [hd, Option.some.injEq, Prod.mk.injEq] at h
      obtain ⟨rfl, rfl⟩ := h
      exact ⟨spelled, List.mem_cons_self .., Text.dropBeginning?_eq_some_iff.1 hd⟩

end Mark

end MessageHarvest.Script
