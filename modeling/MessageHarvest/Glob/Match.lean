import MessageHarvest.Glob.Pattern

/-!
Which paths a glob pattern matches. A pattern matches a whole path, read as one text: a single star
and a question mark stand for slashes too.
-/

namespace MessageHarvest.Glob

def Member.contains (c : Char) : Member → Bool
  | .single member => member = c
  | .range low high => low.toNat ≤ c.toNat && c.toNat ≤ high.toNat

def inMembers (members : List Member) (c : Char) : Bool := members.any (Member.contains c)

def endings : Text → List Text
  | [] => [[]]
  | c :: rest => (c :: rest) :: endings rest

def afterSlashes : Text → List Text
  | [] => []
  | c :: rest => if c = '/' then rest :: afterSlashes rest else afterSlashes rest

/-- What the pieces match: two stars stand for nothing, for leading components with the slash after
them, or for all that is left. -/
def matchPieces : List Piece → Text → Bool
  | [], path => path.isEmpty
  | .char c :: pieces, d :: path => c = d && matchPieces pieces path
  | .anyChar :: pieces, _ :: path => matchPieces pieces path
  | .oneOf members :: pieces, d :: path => inMembers members d && matchPieces pieces path
  | .noneOf members :: pieces, d :: path => !inMembers members d && matchPieces pieces path
  | .anySequence :: pieces, path => (endings path).any (matchPieces pieces)
  | .anyDirectories :: pieces, path =>
      matchPieces pieces path || (afterSlashes path).any (matchPieces pieces) || matchPieces pieces []
  | _ :: _, [] => false

end MessageHarvest.Glob
