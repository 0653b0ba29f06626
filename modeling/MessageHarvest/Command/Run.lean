import MessageHarvest.Catalogue.Json
import MessageHarvest.Command.Action
import MessageHarvest.Command.Arguments
import MessageHarvest.Config.Load
import MessageHarvest.Harvest.Run

namespace MessageHarvest.Command

namespace Failure

def ofLoadError (error : Config.LoadError) : Failure := ⟨error.message, [error.cause]⟩

def ofHarvesterError (error : HarvestError) : Failure :=
  ⟨"Invalid extractor configuration".toList, error.message ::
    match error with
    | .invalidGlob error => [error.error.message]
    | _ => []⟩

def ofHarvestError (error : HarvestError) : Failure := ⟨error.message, []⟩

def unwritten (path : Text) (error : FileError) : Failure :=
  ⟨"Failed to write catalogue: ".toList ++ path, [error.message]⟩

def ofFileError (error : FileError) : Failure := ⟨error.message, []⟩

def unknownLevel (level : Text) : Failure := ⟨"Unknown log level: ".toList ++ level, []⟩

def alreadyPresent : Failure :=
  ⟨"Configuration file already exists: ".toList ++ Config.standardFile ++
    ". Use --force to overwrite.".toList, []⟩

end Failure

open Command.Action

def namesMessages (config : Config) : List Message := [
  .info ("  Translators: ".toList ++ Text.quoteList config.translatorObjects),
  .info ("  Methods: ".toList ++ Text.quoteList config.translatorMethods),
  .info ("  Default domain: ".toList ++ config.defaultDomain)]

def headMessages (config : Config) (paths : List Text) : List Message :=
  .info "=== js-trans-extractor extract ===\n".toList ::
    .info ("  Paths: ".toList ++ Text.quoteList paths) :: namesMessages config

def summaryMessages (harvest : Harvest) : List Message :=
  [.info "\nExtraction Summary:".toList,
    .info ("  Files processed: ".toList ++ Text.ofNat harvest.summary.filesProcessed),
    .info ("  Messages recorded: ".toList ++ Text.ofNat harvest.summary.messagesRecorded),
    .info ("  Unique messages: ".toList ++ Text.ofNat harvest.catalogue.size)] ++
  (if harvest.summary.fallbackFiles.isEmpty then []
    else [.info ("  Extracted with regex fallback: ".toList ++
      Text.ofNat harvest.summary.fallbackFiles.length)]) ++
  (if harvest.summary.skippedFiles.isEmpty then []
    else [⟨.warn, "  Skipped unreadable files: ".toList ++
      Text.ofNat harvest.summary.skippedFiles.length⟩])

/-- `arrange` gives the order of what the workers of a parallel run log. -/
def runHarvest (arrange : List Log → Log) (harvester : Harvester) (files : FileSystem)
    (options : ExtractOptions) : Harvesting Summary :=
  if options.parallel then harvester.runTogether files arrange options.paths
  else harvester.run files options.paths

/-- What is logged is said, also when the run fails after it. -/
def report : RunResult → Action Harvest
  | .ok summary ledger => do
      sayAll (ledger.log.map .ofRecord)
      return ⟨ledger, summary⟩
  | .error error ledger => do
      sayAll (ledger.log.map .ofRecord)
      throw (.ofHarvestError error)

def catalogueText (harvest : Harvest) : Text := harvest.catalogue.toJsonText ++ ['\n']

def deliver (output : Option Text) (harvest : Harvest) : Action Unit :=
  match output with
  | none => print (catalogueText harvest)
  | some path => do
      write path (catalogueText harvest) (.unwritten path)
      say (.info ("\nWrote catalogue: ".toList ++ path))

def overridden (config : Config) (options : ExtractOptions) : Config :=
  { config with
    valuePrefix := options.valuePrefix.getD config.valuePrefix
    defaultDomain := options.defaultDomain.getD config.defaultDomain }

def extract (arrange : List Log → Log) (configPath : Option Text) (options : ExtractOptions) :
    Action Unit := do
  let config ← attempt .ofLoadError (Config.loadOrStandard (← files) configPath)
  sayAll (headMessages (overridden config options) options.paths)
  let harvester ← attempt .ofHarvesterError (Harvester.ofConfig (overridden config options))
  let harvest ← report (runHarvest arrange harvester (← files) options (.blank options.locale))
  deliver options.output harvest
  sayAll (summaryMessages harvest)

def initMessages : List Message :=
  .info ("Created configuration file: ".toList ++ Config.standardFile ++ ['\n']) ::
    namesMessages .standard ++ [
    .info ("  Extensions: ".toList ++ Text.quoteList Config.standard.extensions),
    .info "\nNext steps:".toList,
    .info "  Run 'js-trans-extractor extract <dir>' to extract translation messages".toList]

def standardText : Text := Config.standard.toJsonText ++ ['\n']

def init (force : Bool) : Action Unit := do
  require (force || !(← files).isPresent Config.standardFile) .alreadyPresent
  write Config.standardFile standardText .ofFileError
  sayAll initMessages

def versionText : Text := "js-trans-extractor 0.1.0\n".toList

def helpText : Text :=
  "Extract Translator.trans() messages from JavaScript sources\n\nUsage: js-trans-extractor [OPTIONS] <COMMAND>\n".toList

/-- The log level is checked before anything else is done. -/
def chooseLevel (level : Text) : Action Unit :=
  match LogLevel.ofText? level with
  | some threshold => setThreshold threshold
  | none => throw (.unknownLevel level)

def perform (arrange : List Log → Log) : Request → Action Unit
  | .version => print versionText
  | .help => print helpText
  | .extract config level options => do
      chooseLevel level
      extract arrange config options
  | .init _ level force => do
      chooseLevel level
      init force

structure Outcome where
  code : Nat
  output : Text
  shown : List Message
  report : Text
  files : FileSystem

namespace Outcome

def ofResult : EStateM.Result Failure Progress Unit → Outcome
  | .ok _ progress => ⟨0, progress.output, progress.shown, [], progress.files⟩
  | .error failure progress => ⟨1, progress.output, progress.shown, failure.report, progress.files⟩

def errors (outcome : Outcome) : Text := outcome.shown.flatMap Message.line ++ outcome.report

end Outcome

def namedPaths (arguments : List Text) : List Text :=
  match Request.ofArguments? arguments with
  | some (.extract config _ options) =>
      Config.standardFile :: config.toList ++ options.paths ++ options.output.toList
  | some (.init _ _ _) => [Config.standardFile]
  | _ => []

/-- Runs a command line. Arguments that are refused give the exit code 2. -/
def runArranged (arrange : List Log → Log) (files : FileSystem) (arguments : List Text) : Outcome :=
  match Request.ofArguments? arguments with
  | none => ⟨2, [], [], "error: invalid command line\n".toList, files⟩
  | some request => .ofResult (perform arrange request (.start files))

def run (files : FileSystem) (arguments : List Text) : Outcome :=
  runArranged List.flatten files arguments

end MessageHarvest.Command
