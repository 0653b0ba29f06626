import MessageHarvest.Text.Basic

/-!
Glob patterns and their pieces. Two stars are a piece of their own when they make up a whole component
of the path; the slash after them belongs to the piece.
-/

namespace MessageHarvest.Glob

inductive Member where
  | single (c : Char)
  | range (low high : Char)
  deriving Repr, DecidableEq

inductive Piece where
  | char (c : Char)
  | anyChar
  | anySequence
  | anyDirectories
  | oneOf (members : List Member)
  | noneOf (members : List Member)
  deriving Repr, DecidableEq

inductive ErrorDetail where
  | tooManyStars
  | starsInsideComponent
  | openRange
  deriving Repr, DecidableEq

def ErrorDetail.message : ErrorDetail → Text
  | .tooManyStars => "wildcards are either regular \x60*\x60 or recursive \x60**\x60".toList
  | .starsInsideComponent => "recursive wildcards must form a single path component".toList
  | .openRange => "invalid range pattern".toList

/-- Positions count characters from the start of the pattern. -/
structure PatternError where
  position : Nat
  detail : ErrorDetail
  deriving Repr, DecidableEq

def PatternError.message (error : PatternError) : Text :=
  "Pattern syntax error near position ".toList ++ Text.ofNat error.position ++ [':', ' '] ++
    error.detail.message

/-- A hyphen between two characters makes a range; anywhere else it is a member. -/
def members : Text → List Member
  | low :: '-' :: high :: rest => .range low high :: members rest
  | c :: rest => .single c :: members rest
  | [] => []

def untilBracket? : Text → Option (Text × Text)
  | [] => none
  | c :: rest =>
      if c = ']' then some ([], rest)
      else (untilBracket? rest).map fun (inside, after) => (c :: inside, after)

/-- What stands in brackets; the first character is a member even if it is a bracket. -/
def bracketed? : Text → Option (Text × Text)
  | [] => none
  | c :: rest => (untilBracket? rest).map fun (inside, after) => (c :: inside, after)

def range? : Text → Option (Piece × Text)
  | '!' :: rest => (bracketed? rest).map fun (inside, after) => (.noneOf (members inside), after)
  | rest => (bracketed? rest).map fun (inside, after) => (.oneOf (members inside), after)

def spanStars : Text → Nat × Text
  | '*' :: rest =>
      let (count, after) := spanStars rest
      (count + 1, after)
  | rest => (0, rest)

/-- The piece that begins with a star. `opens` tells that a component begins here. -/
def stars (position : Nat) (opens : Bool) (source : Text) : Except PatternError (Piece × Text) :=
  match spanStars source with
  | (count, after) =>
      if count > 2 then .error ⟨position + 2, .tooManyStars⟩
      else if count = 2 then
        if opens then
          match after with
          | [] => .ok (.anyDirectories, [])
          | '/' :: rest => .ok (.anyDirectories, rest)
          | _ => .error ⟨position + 2, .starsInsideComponent⟩
        else .error ⟨position - 1, .starsInsideComponent⟩
      else .ok (.anySequence, after)

def piece (position : Nat) (opens : Bool) (source : Text) : Except PatternError (Piece × Text) :=
  match source with
  | '?' :: rest => .ok (.anyChar, rest)
  | '*' :: _ => stars position opens source
  | '[' :: rest =>
      match range? rest with
      | some found => .ok found
      | none => .error ⟨position, .openRange⟩
  | c :: rest => .ok (.char c, rest)
  | [] => .ok (.anySequence, [])

/-- Each step reads at least one character. -/
def piecesFrom : (fuel : Nat) → (position : Nat) → (opens : Bool) → Text →
    Except PatternError (List Piece)
  | _, _, _, [] => .ok []
  | 0, _, _, _ :: _ => .ok []
  | fuel + 1, position, opens, c :: source =>
      match piece position opens (c :: source) with
      | .error error => .error error
      | .ok (first, rest) =>
          let read := (c :: source).take (source.length + 1 - rest.length)
          match piecesFrom fuel (position + read.length) (read.getLast? = some '/') rest with
          | .error error => .error error
          | .ok others => .ok (first :: others)

def ofText (source : Text) : Except PatternError (List Piece) :=
  piecesFrom source.length 0 true source

end MessageHarvest.Glob
