import MessageHarvest.Config.Json
import MessageHarvest.Files.Tree

/-!
Configurations kept in files. Without a path the file `jstrans.json` of the working directory is read
where there is one.
-/

namespace MessageHarvest.Config

def standardFile : Text := "jstrans.json".toList

/-- Why no configuration is to be had; `text` is the whole text that could not be decoded. -/
inductive LoadError where
  | unreadable (path : Text) (error : FileError)
  | undecodable (path text : Text) (fault : Json.Fault)
  deriving Repr, DecidableEq

namespace LoadError

def message : LoadError → Text
  | .unreadable path _ => "Failed to read config file: ".toList ++ path
  | .undecodable path _ _ => "Failed to parse config file: ".toList ++ path

def cause : LoadError → Text
  | .unreadable _ error => error.message
  | .undecodable _ text fault => fault.describe text

end LoadError

def load (files : FileSystem) (path : Text) : Except LoadError Config :=
  match files.readText path with
  | .error error => .error (.unreadable path error)
  | .ok text =>
      match ofJsonText text with
      | .error fault => .error (.undecodable path text fault)
      | .ok config => .ok config

def loadOrStandard (files : FileSystem) (path : Option Text) : Except LoadError Config :=
  match path with
  | some path => load files path
  | none => if files.isPresent standardFile then load files standardFile else .ok standard

end MessageHarvest.Config
