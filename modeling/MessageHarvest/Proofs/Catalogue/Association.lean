import MessageHarvest.Proofs.Catalogue.Edit
import MessageHarvest.Proofs.Text.Order
import Mathlib.Data.Set.Card

/-!
A catalogue as a finite map from domains and keys to entries. Edits change the map at one pair, and
every view of the catalogue shows the same map.
-/

namespace MessageHarvest

abbrev Association := Text × Text → Option Entry

namespace Association

variable (held : Association)

def set (key value domain : Text) : Association :=
  Function.update held (domain, key) (some ⟨value, (held (domain, key)).bind (·.metadata)⟩)

def setMetadata (key : Text) (metadata : Metadata) (domain : Text) : Association :=
  Function.update held (domain, key)
    (some ⟨((held (domain, key)).map (·.value)).getD [], some metadata⟩)

def record (valuePrefix : Text) (found : MessageRecord) : Association :=
  let metadata := ((held (found.domain, found.message)).bind (·.metadata)).getD .empty
  Function.update held (found.domain, found.message) (some {
    value := valuePrefix ++ found.message
    metadata := some {
      sources := metadata.sources ++ [sourceLocation found.file found.line]
      extra := metadata.extra } })

def edit : Catalogue.Edit → Association
  | .set key value domain => held.set key value domain
  | .setMetadata key metadata domain => held.setMetadata key metadata domain
  | .record valuePrefix found => held.record valuePrefix found

end Association

namespace Catalogue

def association (catalogue : Catalogue) : Association := fun pair => catalogue.get? pair.2 pair.1

/-- What the views of a catalogue show is an association. -/
structure Shows (catalogue : Catalogue) (held : Association) : Prop where
  entry : ∀ key domain, catalogue.get? key domain = held (domain, key)
  metadata : ∀ key domain, catalogue.metadata? key domain = (held (domain, key)).bind (·.metadata)
  has_iff : ∀ key domain, catalogue.has key domain = true ↔ (held (domain, key)).isSome = true
  domains_increasing : catalogue.domains.keys.Pairwise (· < ·)
  keys_increasing : ∀ messages ∈ catalogue.domains.entries, messages.2.keys.Pairwise (· < ·)
  mem_all_iff : ∀ domain key value, (key, value) ∈ catalogue.all domain ↔
    ∃ entry, held (domain, key) = some entry ∧ entry.value = value
  all_increasing : ∀ domain, ((catalogue.all domain).map Prod.fst).Pairwise (· < ·)
  size_eq : (catalogue.size : ℕ∞) = {pair | (held pair).isSome = true}.encard
  isEmpty_iff : catalogue.isEmpty = true ↔ ∀ pair, held pair = none
  mem_domainNames_iff : ∀ domain, domain ∈ catalogue.domainNames ↔
    ∃ key, (held (domain, key)).isSome = true
  domainNames_increasing : catalogue.domainNames.Pairwise (· < ·)

section Edits

variable (catalogue : Catalogue)

theorem association_modify (key domain : Text) (change : Entry → Entry) :
    (catalogue.modify key domain change).association =
      Function.update catalogue.association (domain, key)
        (some (change ((catalogue.get? key domain).getD .blank))) := by
  funext ⟨otherDomain, otherKey⟩
  rw [association, get?_modify, Function.update_apply]
  simp only [Prod.mk.injEq, association]

theorem association_set (key value domain : Text) :
    (catalogue.set key value domain).association = catalogue.association.set key value domain := by
  rw [set, association_modify, Association.set, association]
  cases catalogue.get? key domain <;> rfl

theorem association_setMetadata (key : Text) (metadata : Metadata) (domain : Text) :
    (catalogue.setMetadata key metadata domain).association =
      catalogue.association.setMetadata key metadata domain := by
  rw [setMetadata, association_modify, Association.setMetadata, association]
  cases catalogue.get? key domain <;> rfl

theorem association_record (valuePrefix : Text) (found : MessageRecord) :
    (catalogue.record valuePrefix found).association =
      catalogue.association.record valuePrefix found := by
  funext ⟨domain, key⟩
  rw [association, get?_record, Association.record, Function.update_apply]
  by_cases here : domain = found.domain ∧ key = found.message
  · obtain ⟨rfl, rfl⟩ := here
    simp [MessageRecord.names, held, metadata?, association, Metadata.addSource,
      MessageRecord.location]
  · have named : found.names key domain = false := by
      rw [Bool.eq_false_iff]
      intro named
      simp only [MessageRecord.names, Bool.and_eq_true, decide_eq_true_eq] at named
      exact here ⟨named.2.symm, named.1.symm⟩
    have other : (domain, key) ≠ (found.domain, found.message) :=
      fun same => here ⟨congrArg Prod.fst same, congrArg Prod.snd same⟩
    rw [named, if_neg other]
    rfl

theorem association_apply (edit : Edit) :
    (edit.apply catalogue).association = catalogue.association.edit edit := by
  cases edit with
  | set key value domain => exact association_set catalogue key value domain
  | setMetadata key metadata domain => exact association_setMetadata catalogue key metadata domain
  | record valuePrefix found => exact association_record catalogue valuePrefix found

theorem association_edits (edits : List Edit) :
    (edits.foldl Edit.apply catalogue).association =
      edits.foldl Association.edit catalogue.association := by
  induction edits generalizing catalogue with
  | nil => rfl
  | cons edit edits ih =>
    rw [List.foldl_cons, List.foldl_cons, ih, association_apply]

end Edits

section Views

variable (catalogue : Catalogue)

theorem isSome_association_iff (pair : Text × Text) :
    (catalogue.association pair).isSome = true ↔
      ∃ messages, (pair.1, messages) ∈ catalogue.domains.entries ∧ pair.2 ∈ messages.keys := by
  simp only [association, get?, Option.isSome_iff_exists, Option.bind_eq_some_iff,
    SortedMap.get?_eq_some_iff, SortedMap.mem_keys_iff]
  constructor
  · rintro ⟨entry, messages, mem, found⟩
    exact ⟨messages, mem, entry, found⟩
  · rintro ⟨messages, mem, entry, found⟩
    exact ⟨entry, messages, mem, found⟩

def pairs : List (Text × Text) :=
  catalogue.domains.entries.flatMap fun messages => messages.2.keys.map (messages.1, ·)

theorem mem_pairs_iff (pair : Text × Text) :
    pair ∈ catalogue.pairs ↔ (catalogue.association pair).isSome = true := by
  obtain ⟨domain, key⟩ := pair
  simp only [isSome_association_iff, pairs, List.mem_flatMap, List.mem_map, Prod.mk.injEq]
  constructor
  · rintro ⟨⟨_, messages⟩, mem, _, found, rfl, rfl⟩
    exact ⟨messages, mem, found⟩
  · rintro ⟨messages, mem, found⟩
    exact ⟨(domain, messages), mem, key, found, rfl, rfl⟩

theorem nodup_pairs : catalogue.pairs.Nodup := by
  refine List.nodup_flatMap.2 ⟨fun messages _ => ?_, ?_⟩
  · exact (messages.2.keys_increasing.imp ne_of_lt).map _ fun key key' ne same =>
      ne (congrArg Prod.snd same)
  · refine (List.pairwise_map.1 catalogue.domains.keys_increasing).imp fun less pair left right => ?_
    obtain ⟨_, -, rfl⟩ := List.mem_map.1 left
    obtain ⟨_, -, same⟩ := List.mem_map.1 right
    exact absurd (congrArg Prod.fst same).symm (ne_of_lt less)

theorem length_pairs : catalogue.pairs.length = catalogue.size := by
  unfold pairs size
  induction catalogue.domains.entries with
  | nil => rfl
  | cons messages others ih =>
    rw [List.flatMap_cons, List.length_append, ih, List.length_map, SortedMap.keys,
      List.length_map, List.foldr_cons, SortedMap.size]

theorem size_eq_encard :
    (catalogue.size : ℕ∞) = {pair | (catalogue.association pair).isSome = true}.encard := by
  have listed : {pair | (catalogue.association pair).isSome = true} = catalogue.pairs.toFinset := by
    ext pair
    simp [mem_pairs_iff]
  rw [listed, Set.encard_coe_eq_coe_finsetCard, List.toFinset_card_of_nodup catalogue.nodup_pairs,
    length_pairs]

theorem isEmpty_iff_unheld : catalogue.isEmpty = true ↔ ∀ pair, catalogue.association pair = none := by
  rw [isEmpty, decide_eq_true_iff, ← length_pairs, List.length_eq_zero_iff,
    List.eq_nil_iff_forall_not_mem]
  simp only [mem_pairs_iff, Option.not_isSome_iff_eq_none]

theorem mem_all_iff_held (domain key value : Text) :
    (key, value) ∈ catalogue.all domain ↔
      ∃ entry, catalogue.association (domain, key) = some entry ∧ entry.value = value := by
  rw [all, association, get?]
  cases catalogue.domains.get? domain with
  | none => simp
  | some messages =>
    simp only [List.mem_map, Prod.mk.injEq, Option.bind_some, SortedMap.get?_eq_some_iff]
    constructor
    · rintro ⟨⟨_, entry⟩, mem, rfl, rfl⟩
      exact ⟨entry, mem, rfl⟩
    · rintro ⟨entry, mem, rfl⟩
      exact ⟨(key, entry), mem, rfl, rfl⟩

theorem all_ascends (domain : Text) : ((catalogue.all domain).map Prod.fst).Pairwise (· < ·) := by
  rw [all]
  cases catalogue.domains.get? domain with
  | none => exact .nil
  | some messages =>
    rw [List.map_map]
    exact messages.keys_increasing

theorem mem_domainNames_iff_held (domain : Text) :
    domain ∈ catalogue.domainNames ↔ ∃ key, (catalogue.association (domain, key)).isSome = true := by
  simp only [isSome_association_iff, domainNames, List.mem_map, List.mem_filter]
  constructor
  · rintro ⟨⟨_, messages⟩, ⟨mem, some⟩, rfl⟩
    obtain ⟨entry, found⟩ := List.exists_mem_of_ne_nil messages.entries
      (by simpa [SortedMap.isEmpty] using some)
    exact ⟨entry.1, messages, mem, List.mem_map_of_mem found⟩
  · rintro ⟨key, messages, mem, found⟩
    obtain ⟨entry, found, -⟩ := List.mem_map.1 found
    refine ⟨(domain, messages), ⟨mem, ?_⟩, rfl⟩
    simpa [SortedMap.isEmpty] using List.ne_nil_of_mem found

theorem domainNames_ascend : catalogue.domainNames.Pairwise (· < ·) :=
  List.pairwise_map.2 ((List.pairwise_map.1 catalogue.domains.keys_increasing).filter _)

theorem shows_association : catalogue.Shows catalogue.association where
  entry _ _ := rfl
  metadata _ _ := rfl
  has_iff _ _ := Iff.rfl
  domains_increasing := catalogue.domains.keys_increasing
  keys_increasing messages _ := messages.2.keys_increasing
  mem_all_iff := catalogue.mem_all_iff_held
  all_increasing := catalogue.all_ascends
  size_eq := catalogue.size_eq_encard
  isEmpty_iff := catalogue.isEmpty_iff_unheld
  mem_domainNames_iff := catalogue.mem_domainNames_iff_held
  domainNames_increasing := catalogue.domainNames_ascend

/-- After any edits the views show what the same edits make of the association. -/
theorem edits_show (edits : List Edit) :
    (edits.foldl Edit.apply catalogue).Shows
      (edits.foldl Association.edit catalogue.association) := by
  rw [← association_edits]
  exact shows_association _

end Views

end Catalogue

end MessageHarvest
