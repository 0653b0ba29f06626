import MessageHarvest.Files.Path
import MessageHarvest.Text.SortedMap
import MessageHarvest.Text.Utf8

namespace MessageHarvest

/-- `unreadable` is a regular file that cannot be read. -/
inductive FileNode where
  | file (bytes : Bytes)
  | unreadable
  | link (target : Text)
  | directory (entries : List (Text × FileNode))

namespace FileNode

def child? (name : Text) : FileNode → Option FileNode
  | .directory entries => SortedMap.lookUp name entries
  | _ => none

def at? (node : FileNode) : List Text → Option FileNode
  | [] => some node
  | name :: names => (node.child? name).bind (·.at? names)

/-- Puts a node under a list of names. Directories on the way are made where they are missing. -/
def put : FileNode → List Text → (new : FileNode) → FileNode
  | _, [], new => new
  | .directory entries, name :: names, new =>
      let held := (SortedMap.lookUp name entries).getD (.directory [])
      .directory (SortedMap.place name (put held names new) entries)
  | _, name :: names, new => .directory [(name, put (.directory []) names new)]

end FileNode

inductive FileError where
  | notFound
  | isDirectory
  | notDirectory
  | linkLoop
  | unreadable
  | notText
  deriving Repr, DecidableEq

def FileError.message : FileError → Text
  | .notFound => "No such file or directory (os error 2)".toList
  | .isDirectory => "Is a directory (os error 21)".toList
  | .notDirectory => "Not a directory (os error 20)".toList
  | .linkLoop => "Too many levels of symbolic links (os error 40)".toList
  | .unreadable => "Input/output error (os error 5)".toList
  | .notText => "stream did not contain valid UTF-8".toList

structure FileSystem where
  root : FileNode
  working : List Text

namespace FileSystem

inductive Place where
  | node (names : List Text) (found : FileNode)
  | free (names : List Text)

/-- A path followed up to its end or to a link, whose target goes on from `here`. -/
inductive Progress where
  | ended (place : Except FileError Place)
  | link (here : List Text) (target : Text) (rest : List Text)

def advance (root : FileNode) (here : List Text) : List Text → Progress
  | [] =>
      match root.at? here with
      | some node => .ended (.ok (.node here node))
      | none => .ended (.error .notFound)
  | name :: rest =>
      if name = ['.', '.'] then advance root here.dropLast rest
      else match root.at? (here ++ [name]) with
        | none =>
            if rest.isEmpty then .ended (.ok (.free (here ++ [name]))) else .ended (.error .notFound)
        | some (.link target) => .link here target rest
        | some (.directory _) => advance root (here ++ [name]) rest
        | some node =>
            if rest.isEmpty then .ended (.ok (.node (here ++ [name]) node))
            else .ended (.error .notDirectory)

def follow (root : FileNode) : (links : Nat) → (here : List Text) → List Text →
    Except FileError Place
  | links, here, names =>
      match advance root here names with
      | .ended place => place
      | .link here target rest =>
          match links with
          | 0 => .error .linkLoop
          | links + 1 =>
              follow root links (if Path.isAbsolute target then [] else here)
                (Path.components target ++ rest)

def linkLimit : Nat := 40

/-- A path with a slash at its end leads to directories only. -/
def ended (path : Text) (place : Place) : Except FileError Place :=
  match place with
  | .node names (.directory entries) => .ok (.node names (.directory entries))
  | .node names node => if Path.wantsDirectory path then .error .notDirectory else .ok (.node names node)
  | .free names => .ok (.free names)

def place (files : FileSystem) (path : Text) : Except FileError Place :=
  if path.isEmpty then .error .notFound
  else
    match follow files.root linkLimit (if Path.isAbsolute path then [] else files.working)
        (Path.components path) with
    | .ok place => ended path place
    | .error error => .error error

def isFile (files : FileSystem) (path : Text) : Bool :=
  match files.place path with
  | .ok (.node _ (.file _)) => true
  | .ok (.node _ .unreadable) => true
  | _ => false

def isDirectory (files : FileSystem) (path : Text) : Bool :=
  match files.place path with
  | .ok (.node _ (.directory _)) => true
  | _ => false

def isPresent (files : FileSystem) (path : Text) : Bool := files.isFile path || files.isDirectory path

def read (files : FileSystem) (path : Text) : Except FileError Bytes :=
  match files.place path with
  | .ok (.node _ (.file bytes)) => .ok bytes
  | .ok (.node _ .unreadable) => .error .unreadable
  | .ok (.node _ _) => .error .isDirectory
  | .ok (.free _) => .error .notFound
  | .error error => .error error

def readText (files : FileSystem) (path : Text) : Except FileError Text :=
  match files.read path with
  | .error error => .error error
  | .ok bytes =>
      match Utf8.decode? bytes with
      | some text => .ok text
      | none => .error .notText

def write (files : FileSystem) (path : Text) (bytes : Bytes) : Except FileError FileSystem :=
  match files.place path with
  | .ok (.node names (.file _)) => .ok { files with root := files.root.put names (.file bytes) }
  | .ok (.node _ .unreadable) => .error .unreadable
  | .ok (.node _ _) => .error .isDirectory
  | .ok (.free names) =>
      if Path.wantsDirectory path then .error .isDirectory
      else .ok { files with root := files.root.put names (.file bytes) }
  | .error error => .error error

def step (here : List Text) (name : Text) : List Text :=
  if name = ['.', '.'] then here.dropLast else here ++ [name]

def namesOf (files : FileSystem) (path : Text) : List Text :=
  (Path.components path).foldl step (if Path.isAbsolute path then [] else files.working)

def put (files : FileSystem) (path : Text) (node : FileNode) : FileSystem :=
  { files with root := files.root.put (files.namesOf path) node }

def empty (working : List Text) : FileSystem :=
  ⟨(FileNode.directory []).put working (.directory []), working⟩

end FileSystem

end MessageHarvest
