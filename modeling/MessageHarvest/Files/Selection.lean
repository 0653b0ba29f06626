import MessageHarvest.Config.Basic
import MessageHarvest.Files.Tree
import MessageHarvest.Glob.Match

namespace MessageHarvest

structure Selector where
  extensions : List Text
  exclude : List (List Glob.Piece)
  deriving Repr, DecidableEq

structure GlobError where
  pattern : Text
  error : Glob.PatternError
  deriving Repr, DecidableEq

def compileGlobs : List Text → Except GlobError (List (List Glob.Piece))
  | [] => .ok []
  | pattern :: patterns =>
      match Glob.ofText pattern with
      | .error error => .error ⟨pattern, error⟩
      | .ok pieces => (pieces :: ·) <$> compileGlobs patterns

def FileNode.depthFirst (path : Text) : FileNode → List Text
  | .file _ => [path]
  | .unreadable => [path]
  | .link _ => []
  | .directory entries => go path entries
where
  /-- The files among the entries of a directory, each subdirectory's at its own place. -/
  go (path : Text) : List (Text × FileNode) → List Text
    | [] => []
    | (name, node) :: entries => node.depthFirst (Path.join path name) ++ go path entries

namespace Selector

def ofConfig (config : Config) : Except GlobError Selector :=
  (Selector.mk config.extensions) <$> compileGlobs config.exclude

def accepts (selector : Selector) (path : Text) : Bool :=
  match Path.extension? path with
  | some extension =>
      selector.extensions.contains extension &&
        !selector.exclude.any (fun pieces => Glob.matchPieces pieces path)
  | none => false

def expand? (selector : Selector) (files : FileSystem) (resource : Text) : Option (List Text) :=
  match files.place resource with
  | .ok (.node _ (.directory entries)) =>
      some ((FileNode.depthFirst resource (.directory entries)).filter selector.accepts)
  | .ok (.node _ (.file _)) => some ([resource].filter selector.accepts)
  | .ok (.node _ .unreadable) => some ([resource].filter selector.accepts)
  | _ => none

def select (selector : Selector) (files : FileSystem) : List Text → Except Text (List Text)
  | [] => .ok []
  | resource :: resources =>
      match selector.expand? files resource with
      | none => .error resource
      | some found => (found ++ ·) <$> select selector files resources

end Selector

end MessageHarvest
