import MessageHarvest.Proofs.Harvest.Written
import MessageHarvest.Proofs.Text.SortedMap

namespace MessageHarvest

section Sources

def Entry.sourceCount (entry : Entry) : Nat := entry.metadata.elim 0 (·.sources.length)

namespace Catalogue

/-- All places in all entries, a place as often as it is listed. -/
def sourceCount (catalogue : Catalogue) : Nat :=
  catalogue.domains.total fun messages => messages.total Entry.sourceCount

variable (catalogue : Catalogue)

theorem sourceCount_modify (key domain : Text) (change : Entry → Entry) :
    (catalogue.modify key domain change).sourceCount +
        ((catalogue.get? key domain).getD .blank).sourceCount =
      catalogue.sourceCount +
        (change ((catalogue.get? key domain).getD .blank)).sourceCount := by
  have outer := SortedMap.total_alter (fun messages => messages.total Entry.sourceCount)
    catalogue.domains domain fun messages =>
      (messages.getD ∅).alter key fun entry => change (entry.getD .blank)
  have inner := SortedMap.total_alter Entry.sourceCount
    ((catalogue.domains.get? domain).getD ∅) key fun entry => change (entry.getD .blank)
  have held : (catalogue.get? key domain).getD .blank =
      (((catalogue.domains.get? domain).getD ∅).get? key).getD .blank := by
    unfold get?
    cases catalogue.domains.get? domain <;> rfl
  have weighed (entry : Option Entry) :
      (entry.getD .blank).sourceCount = entry.elim 0 Entry.sourceCount := by
    cases entry <;> rfl
  have whole : (catalogue.domains.get? domain).elim 0 (·.total Entry.sourceCount) =
      ((catalogue.domains.get? domain).getD ∅).total Entry.sourceCount := by
    cases catalogue.domains.get? domain <;> rfl
  rw [held, weighed]
  simp only [sourceCount, modify]
  omega

theorem sourceCount_held (key domain : Text) :
    ((catalogue.get? key domain).getD .blank).sourceCount =
      (catalogue.held key domain).sources.length := by
  unfold held metadata?
  rcases catalogue.get? key domain with _ | ⟨value, _ | metadata⟩ <;> rfl

theorem sourceCount_set (key value domain : Text) :
    (catalogue.set key value domain).sourceCount = catalogue.sourceCount :=
  Nat.add_right_cancel
    (catalogue.sourceCount_modify key domain fun entry => { entry with value := value })

theorem sourceCount_setMetadata (key : Text) (metadata : Metadata) (domain : Text) :
    (catalogue.setMetadata key metadata domain).sourceCount +
        (catalogue.held key domain).sources.length =
      catalogue.sourceCount + metadata.sources.length := by
  rw [← sourceCount_held]
  exact catalogue.sourceCount_modify key domain fun entry =>
    { entry with metadata := some metadata }

theorem sourceCount_record (valuePrefix : Text) (site : MessageRecord) :
    (catalogue.record valuePrefix site).sourceCount = catalogue.sourceCount + 1 := by
  let valued := catalogue.set site.message (valuePrefix ++ site.message) site.domain
  let metadata := (valued.held site.message site.domain).addSource site.location
  have listed := valued.sourceCount_setMetadata site.message metadata site.domain
  have longer : metadata.sources.length =
      (valued.held site.message site.domain).sources.length + 1 := List.length_append
  have kept : valued.sourceCount = catalogue.sourceCount := catalogue.sourceCount_set ..
  change (valued.setMetadata site.message metadata site.domain).sourceCount = _
  omega

theorem sourceCount_recordAll (valuePrefix : Text) (found : List MessageRecord) :
    (catalogue.recordAll valuePrefix found).sourceCount = catalogue.sourceCount + found.length := by
  induction found generalizing catalogue with
  | nil => rfl
  | cons site found ih =>
    have rest := ih (catalogue.record valuePrefix site)
    rw [sourceCount_record] at rest
    simpa [recordAll, Nat.add_assoc, Nat.add_comm] using rest

end Catalogue

end Sources

def isUnreadable (files : FileSystem) (path : Text) : Bool :=
  match files.read path with
  | .ok _ => false
  | .error _ => true

def isRejected (files : FileSystem) (path : Text) : Bool :=
  match files.read path with
  | .ok bytes =>
      match Script.parseModule (Utf8.decodeLossy bytes) with
      | .ok _ => false
      | .error _ => true
  | .error _ => false

namespace Harvester

open scoped List

variable (harvester : Harvester) (files : FileSystem)

structure Accounts (before : Ledger) (paths : List Text) (harvest : Harvest) : Prop where
  processed : harvest.summary.filesProcessed + harvest.summary.skippedFiles.length = paths.length
  skipped : harvest.summary.skippedFiles = paths.filter (isUnreadable files)
  fallback : harvest.summary.fallbackFiles = paths.filter (isRejected files)
  recorded : before.catalogue.sourceCount + harvest.summary.messagesRecorded =
    harvest.catalogue.sourceCount
  debug : harvest.log.countP (·.level = .debug) =
    before.log.countP (·.level = .debug) + harvest.summary.filesProcessed
  warn : harvest.log.countP (·.level = .warn) = before.log.countP (·.level = .warn) +
    (2 * harvest.summary.fallbackFiles.length + harvest.summary.skippedFiles.length)

variable {harvester files} {before : Ledger} {paths : List Text} {harvest : Harvest}

theorem accounts_start (files : FileSystem) (before : Ledger) :
    Accounts files before [] (start before) :=
  ⟨rfl, rfl, rfl, rfl, rfl, rfl⟩

theorem Accounts.skip {path : Text} {fault : FileError} (h : Accounts files before paths harvest)
    (read : files.read path = .error fault) (harvester : Harvester) (error : HarvestError) :
    Accounts files before (paths ++ [path])
      (harvester.take path (.error error) (logAhead [] harvest)) := by
  obtain ⟨processed, skipped, fallback, recorded, debug, warn⟩ := h
  have unreadable : isUnreadable files path = true := by simp [isUnreadable, read]
  have unrejected : isRejected files path = false := by simp [isRejected, read]
  simp only [take, logAhead]
  constructor
  · simp
    omega
  · simp [skipped, unreadable]
  · simp [fallback, unrejected]
  · exact recorded
  · simp [debug, skipRecord]
  · simp [warn, skipRecord]
    omega

theorem Accounts.apply {path : Text} {bytes : Bytes} (h : Accounts files before paths harvest)
    (read : files.read path = .ok bytes) (harvester : Harvester) :
    let found := harvestSource harvester.config (Utf8.decodeLossy bytes) path
    Accounts files before (paths ++ [path])
      (harvester.take path (.ok found) (logAhead found.2 harvest)) := by
  obtain ⟨processed, skipped, fallback, recorded, debug, warn⟩ := h
  have readable : isUnreadable files path = false := by simp [isUnreadable, read]
  have gathered (found : List MessageRecord) :
      before.catalogue.sourceCount + (harvest.summary.messagesRecorded + found.length) =
        (harvest.catalogue.recordAll harvester.config.valuePrefix found).sourceCount := by
    rw [Catalogue.sourceCount_recordAll, ← recorded, Nat.add_assoc]
  cases parsed : Script.parseModule (Utf8.decodeLossy bytes) with
  | ok tree =>
    have accepted : isRejected files path = false := by simp [isRejected, read, parsed]
    simp only [harvestSource, parsedSites, parsed, take, logAhead]
    constructor
    · simp
      omega
    · simp [skipped, readable]
    · simp [fallback, accepted]
    · exact gathered _
    · simp [debug, doneRecord, Nat.add_assoc]
    · simp [warn, doneRecord]
  | error report =>
    have rejected : isRejected files path = true := by simp [isRejected, read, parsed]
    simp only [harvestSource, parsedSites, parsed, take, logAhead]
    constructor
    · simp
      omega
    · simp [skipped, readable]
    · simp [fallback, rejected]
    · exact gathered _
    · simp [debug, doneRecord, parseLog, Nat.add_assoc]
    · simp [warn, doneRecord, parseLog]
      omega

theorem accounts_take (harvester : Harvester) (h : Accounts files before paths harvest)
    (path : Text) :
    let outcome := harvester.harvestFile files path
    Accounts files before (paths ++ [path])
      (harvester.take path outcome (logAhead (workerLog outcome) harvest)) := by
  unfold harvestFile
  cases read : files.read path with
  | error fault => exact h.skip read harvester _
  | ok bytes => exact h.apply read harvester

theorem accounts_runFiles (harvester : Harvester) (h : Accounts files before paths harvest)
    (more : List Text) :
    Accounts files before (paths ++ more) (harvester.runFiles files more harvest) := by
  induction more generalizing paths harvest with
  | nil => simpa [runFiles] using h
  | cons path more ih =>
    have rest := ih (accounts_take harvester h path)
    rwa [List.append_assoc, List.singleton_append] at rest

theorem Refines.accounts
    (refines : Refines (harvester.runFiles files paths (start before)) harvest) :
    Accounts files before paths harvest := by
  obtain ⟨processed, skipped, fallback, recorded, debug, warn⟩ :=
    accounts_runFiles harvester (accounts_start files before) paths
  rw [← refines.summary] at processed skipped fallback recorded debug warn
  refine ⟨processed, skipped, fallback, ?_, ?_, ?_⟩
  · rwa [refines.catalogue]
  · rwa [refines.log.countP_eq]
  · rwa [refines.log.countP_eq]

/-- A run that is over accounts for each file it selected, however its workers took turns. -/
theorem completes_accounts {resources : List Text}
    (completes : Completes harvester files resources before harvest) :
    ∃ paths, harvester.selector.select files resources = .ok paths ∧
      Accounts files before paths harvest := by
  obtain ⟨paths, selected, refines⟩ := completes.refines
  exact ⟨paths, selected, refines.accounts⟩

theorem completes_accounts_twoFaultyFiles :
    ∃ harvest : Harvest, jsHarvester.run twoFaultyFiles [['.']] (.blank []) =
        .ok harvest.summary harvest.toLedger ∧
      harvest.summary.skippedFiles = ["./a.js".toList] ∧
      harvest.summary.fallbackFiles = ["./b.js".toList] ∧
      harvest.log.countP (·.level = .debug) = 1 ∧ harvest.log.countP (·.level = .warn) = 3 := by
  obtain ⟨harvest, ran⟩ : ∃ harvest : Harvest, jsHarvester.run twoFaultyFiles [['.']] (.blank []) =
      .ok harvest.summary harvest.toLedger := ⟨⟨_, _⟩, rfl⟩
  obtain ⟨paths, selected, accounts⟩ := completes_accounts (.alone ran)
  have both : jsHarvester.selector.select twoFaultyFiles [['.']] =
      .ok ["./a.js".toList, "./b.js".toList] := rfl
  obtain rfl := Except.ok.inj (both.symm.trans selected)
  obtain ⟨processed, skipped, fallback, -, debug, warn⟩ := accounts
  have unreadable : harvest.summary.skippedFiles = ["./a.js".toList] := skipped
  have rejected : harvest.summary.fallbackFiles = ["./b.js".toList] := fallback
  simp only [unreadable, rejected, List.length_cons, List.length_nil] at processed warn
  have quiet : (Ledger.blank []).log = [] := rfl
  simp only [quiet, List.countP_nil] at debug warn
  exact ⟨harvest, ran, unreadable, rejected, by omega, warn⟩

end Harvester

end MessageHarvest
