import MessageHarvest.Text.Basic

namespace MessageHarvest.Path

def segments : Text → List Text
  | [] => [[]]
  | c :: rest =>
      if c = '/' then [] :: segments rest
      else match segments rest with
        | [] => [[c]]
        | first :: others => (c :: first) :: others

def isName (segment : Text) : Bool := !segment.isEmpty && segment != ['.']

/-- Segments that lead somewhere: neither empty nor a single dot. -/
def components (path : Text) : List Text := (segments path).filter isName

def isAbsolute (path : Text) : Bool := path.head? = some '/'

/-- Only a directory may be named with a slash or a dot at the end. -/
def wantsDirectory (path : Text) : Bool :=
  match (segments path).getLast? with
  | some last => !isName last
  | none => false

def beginnings : Text → List Text
  | [] => []
  | c :: rest =>
      let longer := (beginnings rest).map (c :: ·)
      if c = '/' then [] :: longer else longer

def above (path : Text) : List Text := (beginnings path).filter (fun directory => !directory.isEmpty)

def fileName? (path : Text) : Option Text :=
  match (components path).getLast? with
  | some name => if name = ['.', '.'] then none else some name
  | none => none

/-- The part of a name after its last dot; none when the only dot is its first character. -/
def nameExtension? (name : Text) : Option Text :=
  let reversed := name.reverse
  let extension := reversed.takeWhile (· != '.')
  if extension.length + 1 < name.length then some extension.reverse else none

def extension? (path : Text) : Option Text := (fileName? path).bind nameExtension?

/-- A name below a directory. No second slash is put after one that ends the directory's path. -/
def join (directory name : Text) : Text :=
  if directory.getLast? = some '/' then directory ++ name else directory ++ '/' :: name

end MessageHarvest.Path
