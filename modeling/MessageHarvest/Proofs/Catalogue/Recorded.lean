import MessageHarvest.Catalogue.Recording

namespace MessageHarvest

namespace SortedMap

variable {α : Type}

theorem mem_keys_iff (map : SortedMap α) (key : Text) :
    key ∈ map.keys ↔ (map.get? key).isSome := by
  obtain ⟨entries, ascending⟩ := map
  simp only [keys, get?]
  clear ascending
  induction entries with
  | nil => simp [lookUp]
  | cons head rest ih =>
    obtain ⟨other, held⟩ := head
    by_cases h : key = other
    · simp [lookUp, h]
    · simpa [lookUp, h] using ih

end SortedMap

def MessageRecord.names (site : MessageRecord) (key domain : Text) : Bool :=
  site.message = key && site.domain = domain

def sourcesAt (found : List MessageRecord) (key domain : Text) : List Text :=
  (found.filter (·.names key domain)).map MessageRecord.location

namespace Catalogue

variable (catalogue : Catalogue) (valuePrefix : Text)

def held (key domain : Text) : Metadata := (catalogue.metadata? key domain).getD .empty

theorem locale_record (site : MessageRecord) :
    (catalogue.record valuePrefix site).locale = catalogue.locale := rfl

theorem get?_record (site : MessageRecord) (key domain : Text) :
    (catalogue.record valuePrefix site).get? key domain =
      if site.names key domain then
        some ⟨valuePrefix ++ key, some ((catalogue.held key domain).addSource site.location)⟩
      else catalogue.get? key domain := by
  by_cases h : domain = site.domain ∧ key = site.message
  · obtain ⟨rfl, rfl⟩ := h
    have kept : ((catalogue.get? site.message site.domain).getD .blank).metadata =
        catalogue.metadata? site.message site.domain := by
      simp only [metadata?]
      cases catalogue.get? site.message site.domain <;> rfl
    simp [record, set, setMetadata, get?_modify, metadata?, MessageRecord.names, held, kept]
  · have h' : site.names key domain = false := by
      rw [Bool.eq_false_iff]
      intro hn
      simp only [MessageRecord.names, Bool.and_eq_true, decide_eq_true_eq] at hn
      exact h ⟨hn.2.symm, hn.1.symm⟩
    simp [record, set, setMetadata, get?_modify, h, h']

theorem held_record (site : MessageRecord) (key domain : Text) :
    (catalogue.record valuePrefix site).held key domain =
      if site.names key domain then (catalogue.held key domain).addSource site.location
      else catalogue.held key domain := by
  simp only [held, metadata?, get?_record]
  split <;> rfl

theorem domain_modify (key domain : Text) (change : Entry → Entry) (other : Text) :
    (catalogue.modify key domain change).domains.get? other =
      if other = domain then
        some (((catalogue.domains.get? domain).getD ∅).alter key fun entry =>
          change (entry.getD .blank))
      else catalogue.domains.get? other :=
  SortedMap.get?_alter ..

theorem domain_record_of_ne (site : MessageRecord) {domain : Text} (h : site.domain ≠ domain) :
    (catalogue.record valuePrefix site).domains.get? domain = catalogue.domains.get? domain := by
  simp [record, set, setMetadata, domain_modify, Ne.symm h]

theorem domain_record_isSome (site : MessageRecord) (domain : Text) :
    ((catalogue.record valuePrefix site).domains.get? domain).isSome ↔
      (catalogue.domains.get? domain).isSome ∨ site.domain = domain := by
  by_cases h : site.domain = domain
  · simp [record, setMetadata, domain_modify, h]
  · simp [domain_record_of_ne catalogue valuePrefix site h, h]

theorem locale_recordAll (found : List MessageRecord) :
    (catalogue.recordAll valuePrefix found).locale = catalogue.locale := by
  induction found generalizing catalogue with
  | nil => rfl
  | cons site found ih =>
    exact (ih (catalogue.record valuePrefix site)).trans (locale_record catalogue valuePrefix site)

theorem get?_recordAll_of_unnamed {found : List MessageRecord} {key domain : Text}
    (h : ∀ site ∈ found, site.names key domain = false) :
    (catalogue.recordAll valuePrefix found).get? key domain = catalogue.get? key domain := by
  induction found generalizing catalogue with
  | nil => rfl
  | cons site found ih =>
    have first : site.names key domain = false := h site (by simp)
    have rest := ih (catalogue.record valuePrefix site) fun s m => h s (by simp [m])
    rw [get?_record, first] at rest
    exact rest

theorem get?_recordAll_of_named {found : List MessageRecord} {key domain : Text}
    (h : ∃ site ∈ found, site.names key domain) :
    (catalogue.recordAll valuePrefix found).get? key domain =
      some ⟨valuePrefix ++ key, some ⟨
        (catalogue.held key domain).sources ++ sourcesAt found key domain,
        (catalogue.held key domain).extra⟩⟩ := by
  induction found generalizing catalogue with
  | nil => simp at h
  | cons site found ih =>
    change ((catalogue.record valuePrefix site).recordAll valuePrefix found).get? key domain = _
    by_cases later : ∃ s ∈ found, s.names key domain
    · rw [ih (catalogue.record valuePrefix site) later, held_record]
      -- the first site's source comes before those of the later ones
      cases first : site.names key domain <;> simp [sourcesAt, first, Metadata.addSource]
    · have none : ∀ s ∈ found, s.names key domain = false := by
        intro s m
        rw [Bool.eq_false_iff]
        intro hs
        exact later ⟨s, m, hs⟩
      have first : site.names key domain = true := by
        obtain ⟨s, m, hs⟩ := h
        rcases List.mem_cons.1 m with rfl | m
        · exact hs
        · exact absurd ⟨s, m, hs⟩ later
      have empty : found.filter (·.names key domain) = [] :=
        List.filter_eq_nil_iff.2 fun s m => by simp [none s m]
      rw [get?_recordAll_of_unnamed _ _ none, get?_record, first]
      simp [sourcesAt, first, empty, Metadata.addSource]

theorem domain_recordAll_of_unnamed {found : List MessageRecord} {domain : Text}
    (h : ∀ site ∈ found, site.domain ≠ domain) :
    (catalogue.recordAll valuePrefix found).domains.get? domain =
      catalogue.domains.get? domain := by
  induction found generalizing catalogue with
  | nil => rfl
  | cons site found ih =>
    have rest := ih (catalogue.record valuePrefix site) fun s m => h s (by simp [m])
    rwa [domain_record_of_ne catalogue valuePrefix site (h site (by simp))] at rest

theorem mem_domains_recordAll (found : List MessageRecord) (domain : Text) :
    domain ∈ (catalogue.recordAll valuePrefix found).domains.keys ↔
      domain ∈ catalogue.domains.keys ∨ ∃ site ∈ found, site.domain = domain := by
  simp only [SortedMap.mem_keys_iff]
  induction found generalizing catalogue with
  | nil => simp [recordAll]
  | cons site found ih =>
    change ((catalogue.record valuePrefix site).recordAll valuePrefix found |>.domains.get?
      domain).isSome ↔ _
    rw [ih, domain_record_isSome]
    simp [or_assoc]

/-- Every entry, every domain and the locale after a run of recordings. -/
theorem recordAll_writes (found : List MessageRecord) :
    let final := catalogue.recordAll valuePrefix found
    (∀ domain key,
      ((∀ site ∈ found, ¬ (site.message = key ∧ site.domain = domain)) →
        final.get? key domain = catalogue.get? key domain) ∧
      ((∃ site ∈ found, site.message = key ∧ site.domain = domain) →
        final.get? key domain = some {
          value := valuePrefix ++ key
          metadata := some {
            sources := (catalogue.held key domain).sources ++
              (found.filter (fun site => site.message = key ∧ site.domain = domain)).map
                (fun site => sourceLocation site.file site.line)
            extra := (catalogue.held key domain).extra } })) ∧
    final.locale = catalogue.locale ∧
    (∀ domain, (∀ site ∈ found, site.domain ≠ domain) →
      final.domains.get? domain = catalogue.domains.get? domain) ∧
    (∀ domain, domain ∈ final.domains.keys ↔
      domain ∈ catalogue.domains.keys ∨ ∃ site ∈ found, site.domain = domain) := by
  refine ⟨fun domain key => ⟨fun h => ?_, fun h => ?_⟩, locale_recordAll .., fun domain h =>
    domain_recordAll_of_unnamed catalogue valuePrefix h,
    mem_domains_recordAll catalogue valuePrefix found⟩
  · exact get?_recordAll_of_unnamed catalogue valuePrefix fun site m => by
      simpa [MessageRecord.names] using h site m
  · have named : ∃ site ∈ found, site.names key domain := by
      obtain ⟨site, m, hs⟩ := h
      exact ⟨site, m, by simpa [MessageRecord.names] using hs⟩
    have same : sourcesAt found key domain =
        (found.filter (fun site => site.message = key ∧ site.domain = domain)).map
          (fun site => sourceLocation site.file site.line) := by
      simp only [sourcesAt, MessageRecord.names, Bool.decide_and]
      rfl
    rw [get?_recordAll_of_named catalogue valuePrefix named, same]

end Catalogue

end MessageHarvest
