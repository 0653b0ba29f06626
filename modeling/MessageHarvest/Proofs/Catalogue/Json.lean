import MessageHarvest.Catalogue.Json
import MessageHarvest.Proofs.Catalogue.Edit
import MessageHarvest.Proofs.Json.Decoding

namespace MessageHarvest

open Json (Decoder Draft)
open Json.Decoder (Gives gives_ok gives_error gives_next)

namespace Metadata

/-- What is true of all metadata that was read from the text of a catalogue, in which it stands
inside five objects. -/
structure Legible (metadata : Metadata) : Prop where
  unnamed : ∀ entry ∈ metadata.extra.entries, entry.1 ≠ "sources".toList
  ordered : ∀ entry ∈ metadata.extra.entries, entry.2.isOrdered = true
  shallow : ∀ entry ∈ metadata.extra.entries, entry.2.nesting + 5 < Decoder.depthLimit

def Integral (metadata : Metadata) : Prop :=
  ∀ entry ∈ metadata.extra.entries, entry.2.isIntegral = true

structure Portable (metadata : Metadata) : Prop extends Legible metadata where
  integral : metadata.Integral

instance (metadata : Metadata) : Decidable metadata.Integral :=
  inferInstanceAs (Decidable (∀ entry ∈ metadata.extra.entries, _))

instance (metadata : Metadata) : Decidable metadata.Legible :=
  decidable_of_iff
    ((∀ entry ∈ metadata.extra.entries, entry.1 ≠ "sources".toList) ∧
      (∀ entry ∈ metadata.extra.entries, entry.2.isOrdered = true) ∧
      ∀ entry ∈ metadata.extra.entries, entry.2.nesting + 5 < Decoder.depthLimit)
    ⟨fun ⟨unnamed, ordered, shallow⟩ => ⟨unnamed, ordered, shallow⟩,
      fun legible => ⟨legible.unnamed, legible.ordered, legible.shallow⟩⟩

instance (metadata : Metadata) : Decidable metadata.Portable :=
  decidable_of_iff (metadata.Legible ∧ metadata.Integral)
    ⟨fun ⟨legible, integral⟩ => ⟨legible, integral⟩,
      fun portable => ⟨portable.toLegible, portable.integral⟩⟩

variable {metadata : Metadata}

theorem find?_extra {key : Text} (unnamed : key ≠ "sources".toList) :
    fields.find? (fun field => field.name = key) = none := by
  rw [List.find?_eq_none]
  intro field mem named
  obtain rfl := List.mem_singleton.1 mem
  have same := of_decide_eq_true named
  dsimp only at same
  exact unnamed same.symm

theorem members_extra {entries : List (Text × Json)}
    (unnamed : ∀ entry ∈ entries, entry.1 ≠ "sources".toList)
    (ordered : ∀ entry ∈ entries, entry.2.isOrdered = true) {depth : Nat}
    (shallow : ∀ entry ∈ entries, entry.2.nesting < depth) (read : Partly) :
    Decoder.members fields extraMember depth read (Json.namedDrafts entries) =
      .ok { read with extra := read.extra ++ entries } := by
  induction entries generalizing read with
  | nil => simp [Json.namedDrafts, Decoder.members]
  | cons entry entries ih =>
    obtain ⟨key, value⟩ := entry
    simp only [List.forall_mem_cons] at unnamed ordered shallow
    have given : extraMember key depth value.draft =
        .ok fun read => { read with extra := read.extra ++ [(key, value)] } := by
      rw [extraMember, Decoder.value_draft value ordered.1 shallow.1]
      rfl
    rw [Json.namedDrafts, Decoder.members_unknown (find?_extra unnamed.1) given,
      ih unnamed.2 ordered.2 shallow.2, List.append_assoc, List.singleton_append]

theorem members_sources (sources : List Text) (depth : Nat) (rest : List (Option Text × Draft)) :
    Decoder.members fields extraMember (depth + 2) {}
      ((some "sources".toList, (Json.ofTexts sources).draft) :: rest) =
      Decoder.members fields extraMember (depth + 2) { sources := some sources } rest := by
  have listed : Decoder.list Decoder.text (depth + 2) (Json.ofTexts sources).draft = .ok sources :=
    Decoder.list_draft fun source mem => rfl
  let field : Decoder.Field Partly := fields.head (List.cons_ne_nil _ _)
  have known : fields.find? (fun field => field.name = "sources".toList) = some field := rfl
  have given : field.read (depth + 2) (Json.ofTexts sources).draft =
      .ok fun read => { read with sources := some sources } := by
    simp only [field, fields, List.head_cons, listed]
    rfl
  exact Decoder.members_known known rfl given rest

theorem Legible.decoder_toJson (legible : metadata.Legible) :
    decoder 124 metadata.toJson.draft = .ok metadata := by
  have shallow : ∀ entry ∈ metadata.extra.entries, entry.2.nesting < 123 := fun entry mem =>
    Nat.add_lt_add_iff_right.1 (legible.shallow entry mem)
  have extra (read : Partly) := members_extra legible.unnamed legible.ordered shallow read
  have completed (read : Partly) : Decoder.complete fields read = .ok read :=
    Decoder.complete_eq_self (List.forall_mem_singleton.2 rfl)
  obtain ⟨sources, others⟩ := metadata
  cases sources with
  | nil =>
    have read := Decoder.openRecord_object (extra {}) (completed _)
    simp only [decoder, toJson, Json.draft, List.isEmpty_nil, if_true, List.nil_append, read]
    exact congrArg (fun others => Except.ok (Metadata.mk [] others)) others.ofList_entries
  | cons source sources =>
    have read := Decoder.openRecord_object
      ((members_sources (source :: sources) 121 _).trans (extra _)) (completed _)
    simp only [decoder, toJson, Json.draft, List.isEmpty_cons, Bool.false_eq_true, if_false,
      List.cons_append, List.nil_append, Json.namedDrafts, read]
    exact congrArg (fun others => Except.ok (Metadata.mk (source :: sources) others))
      others.ofList_entries

theorem Integral.toJson (integral : metadata.Integral) : metadata.toJson.isIntegral = true := by
  have sources := Json.isIntegral_ofTexts metadata.sources
  have extra : Json.membersIntegral metadata.extra.entries = true :=
    Json.membersIntegral_iff.2 integral
  rw [Metadata.toJson, Json.isIntegral]
  split
  · exact extra
  · simp [Json.membersIntegral, sources, extra]

theorem gives_decoder {draft : Draft} (sound : draft.Sound) :
    Gives (decoder 124 draft) Metadata.Legible := by
  let Kept (read : Partly) : Prop := ∀ entry ∈ read.extra,
    entry.1 ≠ "sources".toList ∧ entry.2.isOrdered = true ∧ entry.2.nesting + 5 < Decoder.depthLimit
  have keeps : Decoder.Keeps fields extraMember 123 Kept := by
    refine ⟨fun field mem draft sound => ?_, fun key unknown draft sound => ?_,
      fun field mem read kept => ?_⟩
    · obtain rfl := List.mem_singleton.1 mem
      exact gives_next fun sources => gives_ok fun read kept => kept
    · have other : key ≠ "sources".toList := fun same =>
        unknown _ (List.mem_singleton_self _) same.symm
      refine (Decoder.gives_value draft sound 123).bind fun value given => gives_ok ?_
      obtain ⟨ordered, shallow⟩ := given
      have shallow : value.nesting + 5 < Decoder.depthLimit := by
        have limit : Decoder.depthLimit = 128 := rfl
        omega
      intro read kept
      exact List.forall_mem_append.2
        ⟨kept, List.forall_mem_singleton.2 ⟨other, ordered, shallow⟩⟩
    · obtain rfl := List.mem_singleton.1 mem
      exact gives_ok kept
  have start : Kept {} := List.forall_mem_nil _
  refine (keeps.gives_openRecord start sound).bind fun read kept => gives_ok ?_
  have kept (entry : Text × Json) (mem : entry ∈ (SortedMap.ofList read.extra).entries) :=
    kept entry (SortedMap.mem_of_mem_ofList mem)
  exact ⟨fun entry mem => (kept entry mem).1, fun entry mem => (kept entry mem).2.1,
    fun entry mem => (kept entry mem).2.2⟩

end Metadata

namespace Entry

variable {entry : Entry}

theorem members_value (value : Text) (depth : Nat) (rest : List (Option Text × Draft)) :
    Decoder.members fields Decoder.skipped depth {}
      ((some "value".toList, (Json.string value).draft) :: rest) =
      Decoder.members fields Decoder.skipped depth { value := some value } rest := by
  let field : Decoder.Field Partly := fields.head (List.cons_ne_nil _ _)
  have known : fields.find? (fun field => field.name = "value".toList) = some field := rfl
  have given : field.read depth (Json.string value).draft =
      .ok fun read => { read with value := some value } := rfl
  exact Decoder.members_known known rfl given rest

theorem members_metadata {metadata : Metadata} (legible : metadata.Legible) (value : Text) :
    Decoder.members fields Decoder.skipped 124 { value := some value }
      [(some "metadata".toList, metadata.toJson.draft)] =
      .ok { value := some value, metadata := some (some metadata) } := by
  have found : Decoder.optional Metadata.decoder 124 metadata.toJson.draft = .ok (some metadata) :=
    Decoder.optional_draft legible.decoder_toJson Json.noConfusion
  let field : Decoder.Field Partly := fields.getLast (List.cons_ne_nil _ _)
  have known : fields.find? (fun field => field.name = "metadata".toList) = some field := rfl
  have given : field.read 124 metadata.toJson.draft =
      .ok fun read => { read with metadata := some (some metadata) } := by
    simp only [field, fields, List.getLast_cons_cons, List.getLast_singleton, found]
    rfl
  exact Decoder.members_known known rfl given []

theorem decoder_of_read {depth : Nat} {draft : Draft} {read : Partly}
    (given : Decoder.record fields {} depth draft = .ok read) :
    decoder depth draft = .ok ⟨read.value.getD [], read.metadata.getD none⟩ := by
  rw [decoder, given]
  rfl

theorem decoder_toJson (legible : ∀ metadata ∈ entry.metadata, metadata.Legible) :
    decoder 125 entry.toJson.draft = .ok entry := by
  obtain ⟨value, metadata⟩ := entry
  cases metadata with
  | none =>
    exact decoder_of_read (Decoder.record_object (members_value value 124 []) rfl)
  | some metadata =>
    have read := (members_value value 124 [(some "metadata".toList, metadata.toJson.draft)]).trans
      (members_metadata (legible metadata rfl) value)
    exact decoder_of_read (Decoder.record_object read rfl)

theorem isIntegral_toJson (integral : ∀ metadata ∈ entry.metadata, metadata.Integral) :
    entry.toJson.isIntegral = true := by
  obtain ⟨value, metadata⟩ := entry
  cases metadata with
  | none => rfl
  | some metadata =>
    have := (integral metadata rfl).toJson
    simp [toJson, Json.isIntegral, Json.membersIntegral, this]

theorem gives_decoder {draft : Draft} (sound : draft.Sound) :
    Gives (decoder 125 draft) fun entry => ∀ metadata ∈ entry.metadata, metadata.Legible := by
  let Kept (read : Partly) : Prop := ∀ held ∈ read.metadata, ∀ metadata ∈ held, metadata.Legible
  have keeps : Decoder.Keeps fields Decoder.skipped 124 Kept := by
    refine Decoder.keeps_skipped (fun field mem draft sound => ?_) fun field mem read kept => ?_
    · simp only [fields, List.mem_cons, List.not_mem_nil, or_false] at mem
      rcases mem with rfl | rfl
      · exact gives_next fun value => gives_ok fun read kept => kept
      · refine (Decoder.gives_optional (Metadata.gives_decoder sound)).bind fun metadata legible =>
          gives_ok fun read kept held mem => ?_
        obtain rfl := Option.some.inj mem
        exact legible
    · simp only [fields, List.mem_cons, List.not_mem_nil, or_false] at mem
      rcases mem with rfl | rfl
      · exact gives_error _
      · exact gives_ok kept
  refine (keeps.gives_record (by simp [Kept]) sound).bind fun read kept => gives_ok ?_
  cases held : read.metadata with
  | none => simp
  | some metadata => exact kept metadata held

end Entry

namespace Catalogue

variable {catalogue : Catalogue}

theorem members_locale (locale : Text) (depth : Nat) (rest : List (Option Text × Draft)) :
    Decoder.members fields Decoder.skipped depth {}
      ((some "locale".toList, (Json.string locale).draft) :: rest) =
      Decoder.members fields Decoder.skipped depth { locale := some locale } rest := by
  let field : Decoder.Field Partly := fields.head (List.cons_ne_nil _ _)
  have known : fields.find? (fun field => field.name = "locale".toList) = some field := rfl
  have given : field.read depth (Json.string locale).draft =
      .ok fun read => { read with locale := some locale } := rfl
  exact Decoder.members_known known rfl given rest

def messagesJson (messages : SortedMap Entry) : Json :=
  .object (messages.entries.map fun entry => (entry.1, entry.2.toJson))

def domainsJson (domains : SortedMap (SortedMap Entry)) : Json :=
  .object (domains.entries.map fun entry => (entry.1, messagesJson entry.2))

theorem members_domains (legible : catalogue.Every Metadata.Legible) (locale : Text) :
    Decoder.members fields Decoder.skipped 127 { locale := some locale }
      [(some "domains".toList, (domainsJson catalogue.domains).draft)] =
      .ok { locale := some locale, domains := some catalogue.domains } := by
  have found : Decoder.map (Decoder.map Entry.decoder) 127 (domainsJson catalogue.domains).draft =
      .ok catalogue.domains :=
    Decoder.map_draft fun messages held => Decoder.map_draft fun entry mem =>
      Entry.decoder_toJson (legible messages held entry mem)
  let field : Decoder.Field Partly := fields.getLast (List.cons_ne_nil _ _)
  have known : fields.find? (fun field => field.name = "domains".toList) = some field := rfl
  have given : field.read 127 (domainsJson catalogue.domains).draft =
      .ok fun read => { read with domains := some catalogue.domains } := by
    simp only [field, fields, List.getLast_cons_cons, List.getLast_singleton, found]
    rfl
  exact Decoder.members_known known rfl given []

theorem decoder_of_read {depth : Nat} {draft : Draft} {read : Partly}
    (given : Decoder.record fields {} depth draft = .ok read) :
    decoder depth draft = .ok ⟨read.locale.getD [], read.domains.getD ∅⟩ := by
  rw [decoder, given]
  rfl

theorem decoder_toJson (legible : catalogue.Every Metadata.Legible) :
    decoder Decoder.depthLimit catalogue.toJson.draft = .ok catalogue := by
  have read := (members_locale catalogue.locale 127
    [(some "domains".toList, (domainsJson catalogue.domains).draft)]).trans
      (members_domains legible catalogue.locale)
  exact decoder_of_read (Decoder.record_object read rfl)

theorem isIntegral_toJson (integral : catalogue.Every Metadata.Integral) :
    catalogue.toJson.isIntegral = true := by
  have domains : (domainsJson catalogue.domains).isIntegral = true := by
    refine Json.membersIntegral_iff.2 (List.forall_mem_map.2 fun messages held => ?_)
    refine Json.membersIntegral_iff.2 (List.forall_mem_map.2 fun entry mem => ?_)
    exact Entry.isIntegral_toJson (integral messages held entry mem)
  have given : catalogue.toJson = .object [("locale".toList, .string catalogue.locale),
      ("domains".toList, domainsJson catalogue.domains)] := rfl
  simp [given, Json.isIntegral, Json.membersIntegral, domains]

theorem gives_decoder {draft : Draft} (sound : draft.Sound) :
    Gives (decoder Decoder.depthLimit draft) (Every Metadata.Legible) := by
  let Kept (read : Partly) : Prop := ∀ domains ∈ read.domains, ∀ messages ∈ domains.entries,
    ∀ entry ∈ messages.2.entries, ∀ metadata ∈ entry.2.metadata, metadata.Legible
  have keeps : Decoder.Keeps fields Decoder.skipped 127 Kept := by
    refine Decoder.keeps_skipped (fun field mem draft sound => ?_) fun field mem read kept => ?_
    · simp only [fields, List.mem_cons, List.not_mem_nil, or_false] at mem
      rcases mem with rfl | rfl
      · exact gives_next fun locale => gives_ok fun read kept => kept
      · refine (Decoder.gives_map (fun draft sound =>
          Decoder.gives_map (fun draft sound => Entry.gives_decoder sound) sound) sound).bind
            fun domains legible => gives_ok fun read kept held mem => ?_
        obtain rfl := Option.some.inj mem
        exact legible
    · simp only [fields, List.mem_cons, List.not_mem_nil, or_false] at mem
      rcases mem with rfl | rfl
      · exact gives_error _
      · exact gives_error _
  refine (keeps.gives_record (by simp [Kept]) sound).bind fun read kept => gives_ok ?_
  cases held : read.domains with
  | none => exact List.forall_mem_nil _
  | some domains => exact kept domains held

theorem Every.read_back (portable : catalogue.Every Metadata.Portable) :
    ofJsonText catalogue.toJsonText = .ok catalogue :=
  Decoder.decode_pretty (isIntegral_toJson (portable.mono fun _ metadata => metadata.integral))
    (decoder_toJson (portable.mono fun _ metadata => metadata.toLegible))

theorem every_legible_of_ofJsonText {text : Text} (loaded : ofJsonText text = .ok catalogue) :
    catalogue.Every Metadata.Legible :=
  Decoder.gives_decode (fun _ sound => gives_decoder sound) text catalogue loaded

/-- Nothing is lost of a catalogue whose metadata can be written. Whatever was loaded can be, if its
numbers are integers, and no edit changes that. -/
theorem ofJsonText_toJsonText :
    (∀ catalogue : Catalogue, catalogue.Every Metadata.Portable →
      ofJsonText catalogue.toJsonText = .ok catalogue) ∧
    ∀ text loaded (edits : List Edit), ofJsonText text = .ok loaded →
      loaded.Every Metadata.Integral → (∀ edit ∈ edits, edit.Brings Metadata.Portable) →
      let final := edits.foldl Edit.apply loaded
      ofJsonText final.toJsonText = .ok final ∧
        toJsonText <$> ofJsonText final.toJsonText = .ok final.toJsonText := by
  refine ⟨fun catalogue portable => portable.read_back, ?_⟩
  intro text loaded edits given integral brings final
  have legible := every_legible_of_ofJsonText given
  have portable : loaded.Every Metadata.Portable := fun messages held entry found metadata mem =>
    ⟨legible messages held entry found metadata mem, integral messages held entry found metadata mem⟩
  have none : Metadata.empty.Portable := by decide
  have adds (metadata : Metadata) (source : Text) (h : metadata.Portable) :
      (metadata.addSource source).Portable := ⟨⟨h.unnamed, h.ordered, h.shallow⟩, h.integral⟩
  have read : ofJsonText final.toJsonText = .ok final := (portable.edits none adds brings).read_back
  refine ⟨read, ?_⟩
  rw [read]
  rfl

/-- A catalogue with an empty domain, a message without metadata, one with empty metadata, and one
with values of all kinds behind a control character and quotes. -/
def everyShape : Catalogue where
  locale := "\"\\é\x01".toList
  domains := SortedMap.ofList [
    ([], ∅),
    ("m".toList, SortedMap.ofList [
      ([], ⟨[], none⟩),
      ("a".toList, ⟨"\t\n".toList, some .empty⟩),
      ("b".toList, ⟨[], some ⟨[[], "x.js:1".toList], SortedMap.ofList [
        ("Sources".toList, .object [([], .array [.null, .array []]), ("n".toList, .object [])]),
        ("n".toList, .integer (-9223372036854775808))]⟩⟩)])]

def everyEdit : List Edit := [
  .set "a".toList "A".toList [],
  .setMetadata "b".toList ⟨[], SortedMap.ofList [("n".toList, .integer 18446744073709551615)]⟩
    "m".toList,
  .record "_".toList ⟨"b".toList, "m".toList, "x\\y.js".toList, some 2⟩]

theorem ofJsonText_toJsonText_everyShape :
    ofJsonText everyShape.toJsonText = .ok everyShape ∧
      ∃ final, final = everyEdit.foldl Edit.apply everyShape ∧
        ofJsonText final.toJsonText = .ok final := by
  have portable : everyShape.Every Metadata.Portable := by decide
  have integral : everyShape.Every Metadata.Integral := by decide
  have brings : ∀ edit ∈ everyEdit, edit.Brings Metadata.Portable := by
    simp [everyEdit, Edit.Brings]
    decide
  have loaded := ofJsonText_toJsonText.1 everyShape portable
  exact ⟨loaded, _, rfl, (ofJsonText_toJsonText.2 _ _ everyEdit loaded integral brings).1⟩

end Catalogue

end MessageHarvest
