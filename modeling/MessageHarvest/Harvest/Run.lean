import MessageHarvest.Catalogue.Recording
import MessageHarvest.Files.Selection
import MessageHarvest.Harvest.Source

/-!
Harvesting files into a catalogue. A file that cannot be read is skipped and named in the summary; only
a resource that does not exist ends the run.
-/

namespace MessageHarvest

inductive HarvestError where
  | invalidConfig (problem : Config.Problem)
  | invalidGlob (error : GlobError)
  | missingResource (path : Text)
  | unreadableFile (path : Text)
  deriving Repr, DecidableEq

def HarvestError.message : HarvestError → Text
  | .invalidConfig problem => "Invalid configuration: ".toList ++ problem.message
  | .invalidGlob error => "Invalid exclude glob pattern: ".toList ++ error.pattern
  | .missingResource path => "The \"".toList ++ path ++ "\" file does not exist.".toList
  | .unreadableFile path => "Failed to read file: ".toList ++ path

structure Harvester where
  config : Config
  selector : Selector
  deriving Repr, DecidableEq

structure Summary where
  filesProcessed : Nat
  fallbackFiles : List Text
  skippedFiles : List Text
  messagesRecorded : Nat
  deriving Repr, DecidableEq

def Summary.empty : Summary := ⟨0, [], [], 0⟩

/-- What a run works on. It belongs to the caller, who still has it when the run fails. -/
structure Ledger where
  catalogue : Catalogue
  log : Log

def Ledger.blank (locale : Text) : Ledger := ⟨.empty locale, []⟩

structure Harvest extends Ledger where
  summary : Summary

/-- A run may fail, and leaves the ledger as it is then. -/
abbrev Harvesting := EStateM HarvestError Ledger

abbrev RunResult := EStateM.Result HarvestError Ledger Summary

def RunResult.ledger : RunResult → Ledger
  | .ok _ ledger => ledger
  | .error _ ledger => ledger

namespace Harvester

/-- The configuration is checked before its patterns are read. -/
def ofConfig (config : Config) : Except HarvestError Harvester :=
  match config.problem? with
  | some problem => .error (.invalidConfig problem)
  | none =>
      match Selector.ofConfig config with
      | .error error => .error (.invalidGlob error)
      | .ok selector => .ok ⟨config, selector⟩

def harvestFile (harvester : Harvester) (files : FileSystem) (path : Text) :
    Except HarvestError (SourceHarvest × Log) :=
  match files.read path with
  | .error _ => .error (.unreadableFile path)
  | .ok bytes => .ok (harvestSource harvester.config (Utf8.decodeLossy bytes) path)

def skipRecord (path : Text) (error : HarvestError) : LogRecord where
  level := .warn
  message := "Skipping \x7bfile\x7d: \x7bmessage\x7d".toList
  context := [("file".toList, path), ("message".toList, error.message)]

def doneRecord (harvest : SourceHarvest) : LogRecord where
  level := .debug
  message := "Extracted \x7bcount\x7d message(s) from \x7bfile\x7d".toList
  context := [("count".toList, Text.ofNat harvest.records.length), ("file".toList, harvest.file)]

def workerLog (outcome : Except HarvestError (SourceHarvest × Log)) : Log :=
  match outcome with
  | .ok (_, log) => log
  | .error _ => []

def take (harvester : Harvester) (path : Text)
    (outcome : Except HarvestError (SourceHarvest × Log)) (harvest : Harvest) : Harvest :=
  match outcome with
  | .error error =>
      { harvest with
        summary := { harvest.summary with
          skippedFiles := harvest.summary.skippedFiles ++ [path] }
        log := harvest.log ++ [skipRecord path error] }
  | .ok (found, _) =>
      { catalogue := harvest.catalogue.recordAll harvester.config.valuePrefix found.records
        summary := {
          filesProcessed := harvest.summary.filesProcessed + 1
          fallbackFiles := harvest.summary.fallbackFiles ++
            (if found.strategy = .fallback then [found.file] else [])
          skippedFiles := harvest.summary.skippedFiles
          messagesRecorded := harvest.summary.messagesRecorded + found.records.length }
        log := harvest.log ++ [doneRecord found] }

def logAhead (log : Log) (harvest : Harvest) : Harvest := { harvest with log := harvest.log ++ log }

def runFiles (harvester : Harvester) (files : FileSystem) : List Text → Harvest → Harvest
  | [], harvest => harvest
  | path :: paths, harvest =>
      let outcome := harvester.harvestFile files path
      runFiles harvester files paths
        (harvester.take path outcome (logAhead (workerLog outcome) harvest))

/-- All files at once: what they log meanwhile comes in any order, given by `arrange`; what was found
is taken over in the order of the files. -/
def runFilesTogether (harvester : Harvester) (files : FileSystem) (arrange : List Log → Log)
    (paths : List Text) (harvest : Harvest) : Harvest :=
  let outcomes := paths.map fun path => (path, harvester.harvestFile files path)
  outcomes.foldl (fun harvest outcome => harvester.take outcome.1 outcome.2 harvest)
    (logAhead (arrange (outcomes.map fun outcome => workerLog outcome.2)) harvest)

def start (ledger : Ledger) : Harvest := ⟨ledger, .empty⟩

def select (harvester : Harvester) (files : FileSystem) (resources : List Text) :
    Harvesting (List Text) :=
  match harvester.selector.select files resources with
  | .error path => throw (.missingResource path)
  | .ok paths => pure paths

def conclude (harvest : Harvest) : Harvesting Summary := do
  set harvest.toLedger
  return harvest.summary

def run (harvester : Harvester) (files : FileSystem) (resources : List Text) :
    Harvesting Summary := do
  let paths ← harvester.select files resources
  conclude (harvester.runFiles files paths (start (← get)))

def runTogether (harvester : Harvester) (files : FileSystem) (arrange : List Log → Log)
    (resources : List Text) : Harvesting Summary := do
  let paths ← harvester.select files resources
  conclude (harvester.runFilesTogether files arrange paths (start (← get)))

end Harvester

end MessageHarvest
