import MessageHarvest.Command.Run

/-!
The program: what a command line names is loaded from the disk, the command is run on it, and files
that it has changed are written.
-/

namespace MessageHarvest.Command

/-- A file, or a directory with all that is below it, where links lead nowhere. -/
partial def loadNode (entry : IO.FS.DirEntry) : IO FileNode := do
  match (← entry.path.metadata).type with
  | .dir =>
      let entries ← entry.path.readDir
      let loaded ← entries.toList.mapM fun below => do
        match (← below.path.symlinkMetadata).type with
        | .symlink => return (below.fileName.toList, FileNode.link [])
        | _ => return (below.fileName.toList, ← loadNode below)
      return .directory (SortedMap.ofList loaded).entries
  | _ =>
      match ← (IO.FS.readBinFile entry.path).toBaseIO with
      | .ok bytes => return .file bytes.toList
      | .error _ => return .unreadable

def entryAt (path : Text) : IO IO.FS.DirEntry := do
  return ⟨← IO.currentDir, String.ofList path⟩

def loadAbove (files : FileSystem) (directory : Text) : IO FileSystem := do
  if files.isDirectory directory then return files
  else if ← (← entryAt directory).path.isDir then return files.put directory (.directory [])
  else return files

def load (files : FileSystem) (path : Text) : IO FileSystem := do
  let files ← (Path.above path).foldlM loadAbove files
  let entry ← entryAt path
  if ← entry.path.pathExists then return files.put path (← loadNode entry)
  else return files

def isChanged (before after : FileSystem) (path : Text) : Bool :=
  match before.read path, after.read path with
  | .ok old, .ok new => old != new
  | .error _, .ok _ => true
  | _, .error _ => false

def store (before after : FileSystem) (path : Text) : IO Unit := do
  if isChanged before after path then
    match after.read path with
    | .ok bytes => IO.FS.writeBinFile (← entryAt path).path ⟨bytes.toArray⟩
    | .error _ => return ()

end MessageHarvest.Command

open MessageHarvest Command in
def main (args : List String) : IO UInt32 := do
  let arguments := args.map String.toList
  let working := Path.components (← IO.currentDir).toString.toList
  let paths := namedPaths arguments
  let files ← paths.foldlM load (.empty working)
  let outcome := run files arguments
  (← IO.getStdout).putStr (String.ofList outcome.output)
  (← IO.getStderr).putStr (String.ofList outcome.errors)
  paths.forM (store files outcome.files)
  return UInt32.ofNat outcome.code
