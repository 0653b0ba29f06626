import MessageHarvest.Proofs.Catalogue.Recorded
import MessageHarvest.Proofs.Text.SortedMap

namespace MessageHarvest.Catalogue

inductive Edit where
  | set (key value domain : Text)
  | setMetadata (key : Text) (metadata : Metadata) (domain : Text)
  | record (valuePrefix : Text) (found : MessageRecord)

namespace Edit

def apply (catalogue : Catalogue) : Edit → Catalogue
  | set key value domain => catalogue.set key value domain
  | setMetadata key metadata domain => catalogue.setMetadata key metadata domain
  | record valuePrefix found => catalogue.record valuePrefix found

def Brings (P : Metadata → Prop) : Edit → Prop
  | setMetadata _ metadata _ => P metadata
  | _ => True

end Edit

def Every (P : Metadata → Prop) (catalogue : Catalogue) : Prop :=
  ∀ messages ∈ catalogue.domains.entries, ∀ entry ∈ messages.2.entries,
    ∀ metadata ∈ entry.2.metadata, P metadata

instance (P : Metadata → Prop) [DecidablePred P] (catalogue : Catalogue) :
    Decidable (catalogue.Every P) :=
  inferInstanceAs (Decidable (∀ messages ∈ catalogue.domains.entries, _))

variable {P : Metadata → Prop} {catalogue : Catalogue}

theorem every_iff : catalogue.Every P ↔ ∀ key domain, ∀ entry ∈ catalogue.get? key domain,
    ∀ metadata ∈ entry.metadata, P metadata := by
  constructor
  · intro every key domain entry found
    obtain ⟨messages, held, found⟩ := Option.bind_eq_some_iff.1 found
    exact every (domain, messages) ((SortedMap.get?_eq_some_iff _).1 held) (key, entry)
      ((SortedMap.get?_eq_some_iff _).1 found)
  · rintro every ⟨domain, messages⟩ held ⟨key, entry⟩ found
    refine every key domain entry ?_
    rw [get?, (SortedMap.get?_eq_some_iff _).2 held]
    exact (SortedMap.get?_eq_some_iff _).2 found

theorem Every.mono {Q : Metadata → Prop} (every : catalogue.Every P)
    (weaker : ∀ metadata, P metadata → Q metadata) : catalogue.Every Q :=
  fun messages held entry found metadata mem =>
    weaker _ (every messages held entry found metadata mem)

theorem Every.modify (every : catalogue.Every P) {key domain : Text} {change : Entry → Entry}
    (kept : ∀ metadata ∈ (change ((catalogue.get? key domain).getD .blank)).metadata, P metadata) :
    (catalogue.modify key domain change).Every P := by
  rw [every_iff] at every ⊢
  intro otherKey otherDomain entry found
  rw [get?_modify] at found
  split at found
  · obtain rfl := Option.some.inj found
    exact kept
  · exact every otherKey otherDomain entry found

theorem Every.set (every : catalogue.Every P) (key value domain : Text) :
    (catalogue.set key value domain).Every P := by
  refine every.modify ?_
  cases held : catalogue.get? key domain with
  | none => simp [Entry.blank]
  | some entry => exact every_iff.1 every key domain entry held

theorem Every.setMetadata (every : catalogue.Every P) (key : Text) {metadata : Metadata}
    (holds : P metadata) (domain : Text) : (catalogue.setMetadata key metadata domain).Every P :=
  every.modify (by simpa using holds)

theorem Every.record (every : catalogue.Every P) (none : P .empty)
    (adds : ∀ metadata source, P metadata → P (metadata.addSource source)) (valuePrefix : Text)
    (found : MessageRecord) : (catalogue.record valuePrefix found).Every P := by
  have valued := every.set found.message (valuePrefix ++ found.message) found.domain
  refine valued.setMetadata found.message (adds _ _ ?_) found.domain
  cases held : (catalogue.set found.message (valuePrefix ++ found.message) found.domain).metadata?
      found.message found.domain with
  | none => exact none
  | some metadata =>
    obtain ⟨entry, found, mem⟩ := Option.bind_eq_some_iff.1 held
    exact every_iff.1 valued _ _ entry found metadata mem

theorem Every.edits (none : P .empty)
    (adds : ∀ metadata source, P metadata → P (metadata.addSource source)) {edits : List Edit}
    (brings : ∀ edit ∈ edits, edit.Brings P) (every : catalogue.Every P) :
    (edits.foldl Edit.apply catalogue).Every P := by
  induction edits generalizing catalogue with
  | nil => exact every
  | cons edit edits ih =>
    obtain ⟨first, others⟩ := List.forall_mem_cons.1 brings
    refine ih others ?_
    cases edit with
    | set key value domain => exact every.set key value domain
    | setMetadata key metadata domain => exact every.setMetadata key first domain
    | record valuePrefix found => exact every.record none adds valuePrefix found

end MessageHarvest.Catalogue
