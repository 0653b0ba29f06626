import MessageHarvest.Command.Run
import MessageHarvest.Proofs.Files.Selected
import MessageHarvest.Proofs.Files.Writing
import MessageHarvest.Proofs.Harvest.Parallel

/-!
What a command line leaves behind: one that fails has printed nothing and written nothing, and one
that succeeds has printed its catalogue or written one file.
-/

namespace MessageHarvest.Command

open Command.Action

section Ends

variable {α β ε : Type} {done : α → Progress → Prop} {failed : Failure → Progress → Prop}
  {before : Progress}

def Ends (done : α → Progress → Prop) (failed : Failure → Progress → Prop) :
    EStateM.Result Failure Progress α → Prop
  | .ok value after => done value after
  | .error failure after => failed failure after

theorem Ends.weaken {done' : α → Progress → Prop} {result : EStateM.Result Failure Progress α}
    (h : Ends done failed result) (weaker : ∀ value after, done value after → done' value after) :
    Ends done' failed result := by
  cases result with
  | ok value after => exact weaker value after h
  | error failure after => exact h

theorem ends_bind {action : Action β} {next : β → Action α}
    (h : Ends (fun value after => Ends done failed (next value after)) failed (action before)) :
    Ends done failed ((action >>= next) before) := by
  change Ends done failed (EStateM.bind action next before)
  unfold EStateM.bind
  cases ran : action before with
  | ok value after =>
    rw [ran] at h
    exact h
  | error failure after =>
    rw [ran] at h
    exact h

theorem ends_files {done : FileSystem → Progress → Prop} (h : done before.files before) :
    Ends done failed (files before) :=
  h

theorem ends_print {done : Unit → Progress → Prop} {text : Text}
    (h : done () { before with output := before.output ++ text }) :
    Ends done failed (print text before) :=
  h

theorem ends_attempt {failure : ε → Failure} {result : Except ε α}
    (fails : ∀ error, result = .error error → failed (failure error) before)
    (succeeds : ∀ value, result = .ok value → done value before) :
    Ends done failed (attempt failure result before) := by
  cases result with
  | ok value => exact succeeds value rfl
  | error error => exact fails error rfl

theorem ends_require {done : Unit → Progress → Prop} {holds : Bool} {failure : Failure}
    (fails : holds = false → failed failure before) (succeeds : holds = true → done () before) :
    Ends done failed (require holds failure before) := by
  cases holds with
  | true => exact succeeds rfl
  | false => exact fails rfl

theorem ends_write {done : Unit → Progress → Prop} {path text : Text}
    {failure : FileError → Failure}
    (fails : ∀ error, before.files.write path (Utf8.encode text) = .error error →
      failed (failure error) before)
    (succeeds : ∀ written, before.files.write path (Utf8.encode text) = .ok written →
      done () { before with files := written }) :
    Ends done failed (write path text failure before) :=
  ends_bind (ends_files (ends_bind (ends_attempt fails succeeds)))

end Ends

section Saying

/-- Something may have been shown in between, and nothing else was done. -/
structure SameEffects (before after : Progress) : Prop where
  output : after.output = before.output
  files : after.files = before.files

variable {before : Progress} {done : Unit → Progress → Prop} {failed : Failure → Progress → Prop}

theorem SameEffects.refl (progress : Progress) : SameEffects progress progress := ⟨rfl, rfl⟩

theorem SameEffects.trans {a b c : Progress} (first : SameEffects a b) (second : SameEffects b c) :
    SameEffects a c :=
  ⟨second.output.trans first.output, second.files.trans first.files⟩

theorem sameEffects_say (message : Message) (before : Progress) :
    SameEffects before (before.say message) := by
  unfold Progress.say
  split <;> exact ⟨rfl, rfl⟩

theorem ends_say {message : Message} (h : ∀ after, SameEffects before after → done () after) :
    Ends done failed (say message before) :=
  h _ (sameEffects_say message before)

theorem ends_sayAll {messages : List Message}
    (h : ∀ after, SameEffects before after → done () after) :
    Ends done failed (sayAll messages before) := by
  induction messages generalizing before with
  | nil => exact h before (.refl before)
  | cons message messages ih =>
    exact ends_bind (ends_say fun _ said => ih fun after same => h after (said.trans same))

theorem ends_report {done : Harvest → Progress → Prop} {result : RunResult}
    (fails : ∀ error ledger, result = .error error ledger → ∀ after, SameEffects before after →
      failed (.ofHarvestError error) after)
    (succeeds : ∀ harvest : Harvest, result = .ok harvest.summary harvest.toLedger →
      ∀ after, SameEffects before after → done harvest after) :
    Ends done failed (report result before) := by
  cases result with
  | ok summary ledger => exact ends_bind (ends_sayAll (succeeds ⟨ledger, summary⟩ rfl))
  | error error ledger => exact ends_bind (ends_sayAll (fails error ledger rfl))

end Saying

section Effects

variable (arrange : List Log → Log) (files : FileSystem)

inductive Harvests (configPath : Option Text) (options : ExtractOptions) (harvest : Harvest) : Prop
  | mk {config : Config} {harvester : Harvester}
      (loaded : Config.loadOrStandard files configPath = .ok config)
      (built : Harvester.ofConfig (overridden config options) = .ok harvester)
      (ran : runHarvest arrange harvester files options (.blank options.locale) =
        .ok harvest.summary harvest.toLedger) :
      Harvests configPath options harvest

inductive Fault : Request → Prop
  | extractLevel {config : Option Text} {level : Text} {options : ExtractOptions}
      (unknown : LogLevel.ofText? level = none) : Fault (.extract config level options)
  | initLevel {config : Option Text} {level : Text} {force : Bool}
      (unknown : LogLevel.ofText? level = none) : Fault (.init config level force)
  | config {config : Option Text} {level : Text} {options : ExtractOptions}
      {error : Config.LoadError} (unloaded : Config.loadOrStandard files config = .error error) :
      Fault (.extract config level options)
  | harvester {config : Option Text} {level : Text} {options : ExtractOptions} {settings : Config}
      {error : HarvestError} (loaded : Config.loadOrStandard files config = .ok settings)
      (refused : Harvester.ofConfig (overridden settings options) = .error error) :
      Fault (.extract config level options)
  | resource {config : Option Text} {level : Text} {options : ExtractOptions} {path : Text}
      (named : path ∈ options.paths) (missing : files.isPresent path = false) :
      Fault (.extract config level options)
  | output {config : Option Text} {level : Text} {options : ExtractOptions} {harvest : Harvest}
      {path : Text} {error : FileError} (harvests : Harvests arrange files config options harvest)
      (wanted : options.output = some path)
      (unwritten : files.write path (Utf8.encode (catalogueText harvest)) = .error error) :
      Fault (.extract config level options)
  | present {config : Option Text} {level : Text}
      (present : files.isPresent Config.standardFile = true) : Fault (.init config level false)
  | standard {config : Option Text} {level : Text} {force : Bool} {error : FileError}
      (unwritten : files.write Config.standardFile (Utf8.encode standardText) = .error error) :
      Fault (.init config level force)

inductive Effect : Request → Text → FileSystem → Prop
  | version : Effect .version versionText files
  | help : Effect .help helpText files
  | printed {config : Option Text} {level : Text} {options : ExtractOptions} {harvest : Harvest}
      (known : (LogLevel.ofText? level).isSome = true)
      (harvests : Harvests arrange files config options harvest) (wanted : options.output = none) :
      Effect (.extract config level options) (catalogueText harvest) files
  | written {config : Option Text} {level : Text} {options : ExtractOptions} {harvest : Harvest}
      {path : Text} {after : FileSystem} (known : (LogLevel.ofText? level).isSome = true)
      (harvests : Harvests arrange files config { options with output := none } harvest)
      (wanted : options.output = some path)
      (replaces : FileSystem.Replaces path (Utf8.encode (catalogueText harvest)) files after) :
      Effect (.extract config level options) [] after
  | created {config : Option Text} {level : Text} {force : Bool} {after : FileSystem}
      (known : (LogLevel.ofText? level).isSome = true)
      (free : force = true ∨ files.isPresent Config.standardFile = false)
      (replaces : FileSystem.Replaces Config.standardFile (Utf8.encode standardText) files after) :
      Effect (.init config level force) [] after

end Effects

section Requests

variable {arrange : List Log → Log} {files : FileSystem} {before : Progress}

theorem missing_of_runHarvest {harvester : Harvester} {options : ExtractOptions}
    {error : HarvestError} {start after : Ledger}
    (missed : runHarvest arrange harvester files options start = .error error after) :
    ∃ path ∈ options.paths, files.isPresent path = false := by
  have unselected : ∃ path, harvester.selector.select files options.paths = .error path := by
    cases selected : harvester.selector.select files options.paths with
    | error path => exact ⟨path, rfl⟩
    | ok paths =>
      have ran : ∃ harvest, runHarvest arrange harvester files options start =
          Harvester.conclude harvest start := by
        unfold runHarvest
        split
        · exact ⟨_, by rw [Harvester.runTogether_eq, selected]⟩
        · exact ⟨_, by rw [Harvester.run_eq, selected]⟩
      obtain ⟨harvest, ran⟩ := ran
      cases ran.symm.trans missed
  obtain ⟨path, selected⟩ := unselected
  have first := (Selector.select_eq_error_iff harvester.selector files).1 selected
  exact ⟨path, List.mem_of_find?_eq_some first, by simpa using List.find?_some first⟩

structure Untouched (files : FileSystem) (progress : Progress) : Prop where
  output : progress.output = []
  files : progress.files = files

theorem Untouched.after {after : Progress} (h : Untouched files before)
    (same : SameEffects before after) : Untouched files after :=
  ⟨same.output.trans h.output, same.files.trans h.files⟩

variable (arrange files) in
def Settles (request : Request) : EStateM.Result Failure Progress Unit → Prop :=
  Ends (fun _ after => Effect arrange files request after.output after.files)
    fun _ after => Fault arrange files request ∧ Untouched files after

variable {config : Option Text} {level : Text} {options : ExtractOptions} {force : Bool}

theorem ends_chooseLevel {done : Unit → Progress → Prop} {failed : Failure → Progress → Prop}
    (fails : LogLevel.ofText? level = none → failed (.unknownLevel level) before)
    (succeeds : ∀ threshold, (LogLevel.ofText? level).isSome = true →
      done () { before with threshold := threshold }) :
    Ends done failed (chooseLevel level before) := by
  unfold chooseLevel
  cases known : LogLevel.ofText? level with
  | none => exact fails known
  | some threshold =>
    rw [known] at succeeds
    exact succeeds threshold rfl

section Known

variable (rooted : files.IsRooted) (known : (LogLevel.ofText? level).isSome = true)
  (untouched : Untouched files before)

include rooted known untouched

theorem settles_deliver {harvest : Harvest}
    (harvests : Harvests arrange files config options harvest) :
    Settles arrange files (.extract config level options)
      (deliver options.output harvest before) := by
  obtain ⟨unprinted, rfl⟩ := untouched
  cases wanted : options.output with
  | none =>
    refine ends_print ?_
    rw [unprinted]
    exact .printed known harvests wanted
  | some path =>
    refine ends_bind (ends_write (fun error unwritten => ?_) fun written wrote => ?_)
    · exact ⟨.output harvests wanted unwritten, unprinted, rfl⟩
    · refine ends_say fun after same => ?_
      obtain ⟨loaded, built, ran⟩ := harvests
      have replaces := FileSystem.replaces_of_write rooted wrote
      rw [same.output, same.files, unprinted]
      exact .written known (.mk loaded built ran) wanted replaces

theorem settles_extract : Settles arrange files (.extract config level options)
    (extract arrange config options before) := by
  refine ends_bind (ends_files ?_)
  rw [untouched.files]
  refine ends_bind (ends_attempt (fun error unloaded => ⟨.config unloaded, untouched⟩)
    fun settings loaded => ends_bind (ends_sayAll fun head said => ?_))
  have untouched := untouched.after said
  refine ends_bind (ends_attempt (fun error refused => ⟨.harvester loaded refused, untouched⟩)
    fun harvester built => ends_bind (ends_files ?_))
  rw [untouched.files]
  refine ends_bind (ends_report (fun error ledger missed after said => ?_)
    fun harvest ran logged said => ends_bind ?_)
  · obtain ⟨path, named, missing⟩ := missing_of_runHarvest missed
    exact ⟨.resource named missing, untouched.after said⟩
  · have delivered := settles_deliver rooted known (untouched.after said) (.mk loaded built ran)
    refine delivered.weaken fun _ after effect => ends_sayAll fun _ same => ?_
    rwa [same.output, same.files]

theorem settles_init : Settles arrange files (.init config level force) (init force before) := by
  refine ends_bind (ends_files ?_)
  rw [untouched.files]
  refine ends_bind (ends_require (fun present => ?_) fun free => ?_)
  · obtain ⟨rfl, present⟩ := Bool.or_eq_false_iff.1 present
    exact ⟨.present (by simpa using present), untouched⟩
  · refine ends_bind (ends_write (fun error unwritten => ?_) fun written wrote => ?_)
    · rw [untouched.files] at unwritten
      exact ⟨.standard unwritten, untouched⟩
    · rw [untouched.files] at wrote
      refine ends_sayAll fun after same => ?_
      have replaces := FileSystem.replaces_of_write rooted wrote
      rw [same.output, same.files, untouched.output]
      exact .created known (by simpa using free) replaces

end Known

theorem settles_perform (rooted : files.IsRooted) (untouched : Untouched files before)
    (request : Request) : Settles arrange files request (perform arrange request before) := by
  cases request with
  | version =>
    refine ends_print ?_
    rw [untouched.output, untouched.files]
    exact .version
  | help =>
    refine ends_print ?_
    rw [untouched.output, untouched.files]
    exact .help
  | extract config level options =>
    refine ends_bind (ends_chooseLevel (fun unknown => ⟨.extractLevel unknown, untouched⟩)
      fun threshold known => ?_)
    exact settles_extract rooted known ⟨untouched.output, untouched.files⟩
  | init config level force =>
    refine ends_bind (ends_chooseLevel (fun unknown => ⟨.initLevel unknown, untouched⟩)
      fun threshold known => ?_)
    exact settles_init rooted known ⟨untouched.output, untouched.files⟩

end Requests

end MessageHarvest.Command
