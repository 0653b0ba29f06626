import MessageHarvest.Proofs.Files.Selected
import MessageHarvest.Proofs.Harvest.Accounting

namespace MessageHarvest

structure Metadata.Reordered (a b : Metadata) : Prop where
  sources : a.sources.Perm b.sources
  extra : a.extra = b.extra

structure Entry.Reordered (a b : Entry) : Prop where
  value : a.value = b.value
  metadata : Option.Rel Metadata.Reordered a.metadata b.metadata

structure Catalogue.Reordered (a b : Catalogue) : Prop where
  locale : a.locale = b.locale
  domains : a.domains.keys = b.domains.keys
  keys : ∀ domain,
    (a.domains.get? domain).map SortedMap.keys = (b.domains.get? domain).map SortedMap.keys
  entries : ∀ key domain, Option.Rel Entry.Reordered (a.get? key domain) (b.get? key domain)

structure Summary.Reordered (a b : Summary) : Prop where
  filesProcessed : a.filesProcessed = b.filesProcessed
  messagesRecorded : a.messagesRecorded = b.messagesRecorded
  fallbackFiles : a.fallbackFiles.Perm b.fallbackFiles
  skippedFiles : a.skippedFiles.Perm b.skippedFiles

section Recordings

theorem Metadata.Reordered.refl (metadata : Metadata) : metadata.Reordered metadata :=
  ⟨.refl _, rfl⟩

theorem Entry.Reordered.refl (entry : Entry) : entry.Reordered entry := by
  refine ⟨rfl, ?_⟩
  cases entry.metadata with
  | none => exact .none
  | some metadata => exact .some (.refl metadata)

theorem isSome_eq_of_rel {α β : Type} {r : α → β → Prop} {a : Option α} {b : Option β}
    (related : Option.Rel r a b) : a.isSome = b.isSome := by
  cases related <;> rfl

namespace Catalogue

theorem keys_eq_of_entries {a b : Catalogue} (domains : a.domains.keys = b.domains.keys)
    (entries : ∀ key domain, (a.get? key domain).isSome = (b.get? key domain).isSome)
    (domain : Text) :
    (a.domains.get? domain).map SortedMap.keys = (b.domains.get? domain).map SortedMap.keys := by
  have present : (a.domains.get? domain).isSome ↔ (b.domains.get? domain).isSome := by
    rw [← SortedMap.mem_keys_iff, ← SortedMap.mem_keys_iff, domains]
  have same := fun key => entries key domain
  unfold get? at same
  cases held : a.domains.get? domain with
  | none =>
    have absent : b.domains.get? domain = none := by simpa [held] using present
    rw [absent]
  | some messages =>
    obtain ⟨messages', held'⟩ := Option.isSome_iff_exists.1 (present.1 (by rw [held]; rfl))
    rw [held']
    refine congrArg some (SortedMap.keys_eq_of_mem fun key => ?_)
    have key_same := same key
    rw [held, held'] at key_same
    rw [SortedMap.mem_keys_iff, SortedMap.mem_keys_iff]
    exact Bool.eq_iff_iff.1 key_same

variable {found found' : List MessageRecord}

theorem sourcesAt_perm (reordered : found.Perm found') (key domain : Text) :
    (sourcesAt found key domain).Perm (sourcesAt found' key domain) :=
  (reordered.filter _).map _

theorem recordAll_reordered (catalogue : Catalogue) (valuePrefix : Text)
    (reordered : found.Perm found') :
    (catalogue.recordAll valuePrefix found).Reordered (catalogue.recordAll valuePrefix found') := by
  have entries : ∀ key domain, Option.Rel Entry.Reordered
      ((catalogue.recordAll valuePrefix found).get? key domain)
      ((catalogue.recordAll valuePrefix found').get? key domain) := by
    intro key domain
    by_cases named : ∃ site ∈ found, site.names key domain
    · have named' : ∃ site ∈ found', site.names key domain := by
        simpa only [reordered.mem_iff] using named
      rw [get?_recordAll_of_named catalogue valuePrefix named,
        get?_recordAll_of_named catalogue valuePrefix named']
      have listed := (sourcesAt_perm reordered key domain).append_left
        (catalogue.held key domain).sources
      exact .some ⟨rfl, .some ⟨listed, rfl⟩⟩
    · have unnamed : ∀ site ∈ found, site.names key domain = false := by simpa using named
      have unnamed' : ∀ site ∈ found', site.names key domain = false := by
        simpa only [reordered.mem_iff] using unnamed
      rw [get?_recordAll_of_unnamed catalogue valuePrefix unnamed,
        get?_recordAll_of_unnamed catalogue valuePrefix unnamed']
      cases catalogue.get? key domain with
      | none => exact .none
      | some entry => exact .some (.refl entry)
  have domains : (catalogue.recordAll valuePrefix found).domains.keys =
      (catalogue.recordAll valuePrefix found').domains.keys := by
    refine SortedMap.keys_eq_of_mem fun domain => ?_
    simp only [mem_domains_recordAll, reordered.mem_iff]
  have keys := keys_eq_of_entries domains fun key domain => isSome_eq_of_rel (entries key domain)
  exact ⟨by rw [locale_recordAll, locale_recordAll], domains, keys, entries⟩

end Catalogue

end Recordings

namespace Harvester

variable {harvester : Harvester} {files : FileSystem}

theorem exists_run {resources : List Text}
    (present : ∀ resource ∈ resources, files.isPresent resource = true) (harvester : Harvester)
    (before : Ledger) : ∃ harvest : Harvest,
      harvester.run files resources before = .ok harvest.summary harvest.toLedger := by
  rw [run_eq, Selector.select_of_present harvester.selector files present]
  exact ⟨_, rfl⟩

theorem Accounts.reordered {before : Ledger} {paths paths' : List Text}
    {harvest harvest' : Harvest} (accounts : Accounts files before paths harvest)
    (accounts' : Accounts files before paths' harvest') (reordered : paths.Perm paths')
    (sources : harvest.catalogue.sourceCount = harvest'.catalogue.sourceCount) :
    harvest.summary.Reordered harvest'.summary := by
  have skipped : harvest.summary.skippedFiles.Perm harvest'.summary.skippedFiles := by
    rw [accounts.skipped, accounts'.skipped]
    exact reordered.filter _
  have fallback : harvest.summary.fallbackFiles.Perm harvest'.summary.fallbackFiles := by
    rw [accounts.fallback, accounts'.fallback]
    exact reordered.filter _
  have processed := accounts.processed
  have processed' := accounts'.processed
  rw [reordered.length_eq, skipped.length_eq] at processed
  have recorded := accounts.recorded
  have recorded' := accounts'.recorded
  exact ⟨by omega, by omega, fallback, skipped⟩

/-- Resources may be named in any order: it decides the order of places and files, nothing else. -/
theorem runs_reordered {resources resources' : List Text} (reordered : resources.Perm resources')
    (present : ∀ resource ∈ resources, files.isPresent resource = true) (harvester : Harvester)
    (before : Ledger) :
    (∃ harvest : Harvest,
      harvester.run files resources before = .ok harvest.summary harvest.toLedger) ∧
    (∃ harvest' : Harvest,
      harvester.run files resources' before = .ok harvest'.summary harvest'.toLedger) ∧
    ∀ harvest harvest', Completes harvester files resources before harvest →
      Completes harvester files resources' before harvest' →
        harvest.catalogue.Reordered harvest'.catalogue ∧
        harvest.summary.Reordered harvest'.summary := by
  have present' : ∀ resource ∈ resources', files.isPresent resource = true := fun resource mem =>
    present resource (reordered.mem_iff.2 mem)
  refine ⟨exists_run present harvester before, exists_run present' harvester before, ?_⟩
  intro harvest harvest' completes completes'
  obtain ⟨paths, selected, refines⟩ := completes.refines
  obtain ⟨paths', selected', refines'⟩ := completes'.refines
  obtain rfl := Except.ok.inj ((Selector.select_of_present _ files present).symm.trans selected)
  obtain rfl := Except.ok.inj ((Selector.select_of_present _ files present').symm.trans selected')
  have gone_through := reordered.flatMap_right (harvester.selector.expansion files)
  have recorded := gone_through.flatMap_right (harvester.recordsOf files)
  -- however the workers take turns, the catalogue is written as by one of them
  have written := refines.catalogue.trans (catalogue_runFiles ..)
  have written' := refines'.catalogue.trans (catalogue_runFiles ..)
  refine ⟨?_, refines.accounts.reordered refines'.accounts gone_through ?_⟩
  · rw [written, written']
    exact Catalogue.recordAll_reordered _ _ recorded
  · rw [written, written', Catalogue.sourceCount_recordAll, Catalogue.sourceCount_recordAll,
      recorded.length_eq]

def repeatedMessage : FileSystem where
  root := .directory [
    ("a.js".toList, .file (Utf8.encode "Translator.trans('m')".toList)),
    ("b.js".toList, .file (Utf8.encode "Translator.trans('m')".toList))]
  working := []

theorem runs_reordered_repeatedMessage :
    ∃ harvest harvest' : Harvest,
      jsHarvester.run repeatedMessage ["a.js".toList, "b.js".toList] (.blank []) =
        .ok harvest.summary harvest.toLedger ∧
      jsHarvester.run repeatedMessage ["b.js".toList, "a.js".toList] (.blank []) =
        .ok harvest'.summary harvest'.toLedger ∧
      harvest.catalogue.Reordered harvest'.catalogue ∧
      harvest.summary.Reordered harvest'.summary := by
  have swapped : ["a.js".toList, "b.js".toList].Perm ["b.js".toList, "a.js".toList] :=
    List.Perm.swap ..
  have present : ∀ resource ∈ ["a.js".toList, "b.js".toList],
      repeatedMessage.isPresent resource = true := by
    intro resource mem
    simp only [List.mem_cons, List.not_mem_nil, or_false] at mem
    rcases mem with rfl | rfl <;> rfl
  obtain ⟨⟨harvest, ran⟩, ⟨harvest', ran'⟩, same⟩ :=
    runs_reordered swapped present jsHarvester (.blank [])
  exact ⟨harvest, harvest', ran, ran', same _ _ (.alone ran) (.alone ran')⟩

end Harvester

end MessageHarvest
