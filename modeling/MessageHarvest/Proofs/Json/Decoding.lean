import MessageHarvest.Json.Decoder
import MessageHarvest.Proofs.Json.Printed
import MessageHarvest.Proofs.Json.Sound
import MessageHarvest.Proofs.Text.SortedMap

namespace MessageHarvest

instance {α : Type} (entries : List (Text × α)) : Decidable (KeysAscend entries) :=
  inferInstanceAs (Decidable (List.Pairwise _ entries))

namespace Json

mutual

def nesting : Json → Nat
  | .array items => itemsNesting items + 1
  | .object members => membersNesting members + 1
  | _ => 0

def itemsNesting : List Json → Nat
  | [] => 0
  | item :: items => max item.nesting (itemsNesting items)

def membersNesting : List (Text × Json) → Nat
  | [] => 0
  | (_, value) :: members => max value.nesting (membersNesting members)

end

mutual

def isOrdered : Json → Bool
  | .array items => areOrdered items
  | .object members => decide (KeysAscend members) && membersOrdered members
  | _ => true

def areOrdered : List Json → Bool
  | [] => true
  | item :: items => item.isOrdered && areOrdered items

def membersOrdered : List (Text × Json) → Bool
  | [] => true
  | (_, value) :: members => value.isOrdered && membersOrdered members

end

section Members

theorem membersOrdered_iff {members : List (Text × Json)} :
    membersOrdered members = true ↔ ∀ member ∈ members, member.2.isOrdered = true := by
  induction members with
  | nil => simp [membersOrdered]
  | cons member members ih => simp [membersOrdered, ih]

theorem membersNesting_le_iff {members : List (Text × Json)} {depth : Nat} :
    membersNesting members ≤ depth ↔ ∀ member ∈ members, member.2.nesting ≤ depth := by
  induction members with
  | nil => simp [membersNesting]
  | cons member members ih => simp [membersNesting, ih]

end Members

namespace Decoder

def keyed {α : Type} (item : Decoder α) (depth : Nat) (found : Option Text × Draft) :
    Except Fault (Text × α) := do
  let key ← name found.1
  return (key, ← item depth found.2)

section Written

theorem enter_add (depth : Nat) {α : Type} (next : Nat → Except Fault α) :
    enter (depth + 2) next = next (depth + 1) := rfl

theorem mapM_eq_ok {α β : Type} {f : α → Except Fault β} {g : α → β} {list : List α}
    (read : ∀ x ∈ list, f x = .ok (g x)) : list.mapM f = .ok (list.map g) := by
  induction list with
  | nil => rfl
  | cons x list ih =>
    obtain ⟨first, others⟩ := List.forall_mem_cons.1 read
    rw [List.mapM_cons, first, ih others]
    rfl

mutual

theorem value_draft : (value : Json) → (ordered : value.isOrdered = true) → {depth : Nat} →
    (shallow : value.nesting < depth) → Decoder.value depth value.draft = .ok value
  | .null, _, _, _ => rfl
  | .bool _, _, _, _ => rfl
  | .integer _, _, _, _ => rfl
  | .decimal _, _, _, _ => rfl
  | .string _, _, _, _ => rfl
  | .array items, ordered, depth, shallow => by
    rw [nesting] at shallow
    obtain ⟨depth, rfl⟩ := Nat.exists_eq_add_of_le' (show 2 ≤ depth by omega)
    have inner : values (depth + 1) (drafts items) = .ok items :=
      values_drafts items (by simpa [isOrdered] using ordered) (Nat.lt_of_succ_lt_succ shallow)
    rw [draft, Decoder.value, enter_add, inner]
    rfl
  | .object members, ordered, depth, shallow => by
    rw [nesting] at shallow
    obtain ⟨depth, rfl⟩ := Nat.exists_eq_add_of_le' (show 2 ≤ depth by omega)
    obtain ⟨ascending, ordered⟩ : KeysAscend members ∧ membersOrdered members = true := by
      simpa [isOrdered] using ordered
    have inner : namedValues (depth + 1) (namedDrafts members) = .ok members :=
      namedValues_namedDrafts members ordered (Nat.lt_of_succ_lt_succ shallow)
    rw [draft, Decoder.value, enter_add, inner]
    exact congrArg (fun members => Except.ok (Json.object members))
      (SortedMap.entries_ofList ascending)

theorem values_drafts : (items : List Json) → (ordered : areOrdered items = true) → {depth : Nat} →
    (shallow : itemsNesting items < depth) → values depth (drafts items) = .ok items
  | [], _, _, _ => rfl
  | item :: items, ordered, depth, shallow => by
    obtain ⟨first, others⟩ : item.isOrdered = true ∧ areOrdered items = true := by
      simpa [areOrdered] using ordered
    obtain ⟨low, lower⟩ := Nat.max_lt.1 shallow
    rw [drafts, values, value_draft item first low, values_drafts items others lower]
    rfl

theorem namedValues_namedDrafts : (members : List (Text × Json)) →
    (ordered : membersOrdered members = true) → {depth : Nat} →
    (shallow : membersNesting members < depth) →
    namedValues depth (namedDrafts members) = .ok members
  | [], _, _, _ => rfl
  | (key, item) :: members, ordered, depth, shallow => by
    obtain ⟨first, others⟩ : item.isOrdered = true ∧ membersOrdered members = true := by
      simpa [membersOrdered] using ordered
    obtain ⟨low, lower⟩ := Nat.max_lt.1 shallow
    rw [namedDrafts, namedValues, value_draft item first low,
      namedValues_namedDrafts members others lower]
    rfl

end

variable {α : Type} {item : Decoder α} {depth : Nat}

theorem list_draft {write : α → Json} {values : List α}
    (read : ∀ value ∈ values, item (depth + 1) (write value).draft = .ok value) :
    Decoder.list item (depth + 2) (Json.array (values.map write)).draft = .ok values := by
  have each : ((values.map write).map Json.draft).mapM (item (depth + 1)) = .ok values := by
    rw [List.map_map, List.mapM_map]
    exact (mapM_eq_ok read).trans (congrArg Except.ok (List.map_id values))
  rw [draft, drafts_eq_map, Decoder.list, enter_add, each]
  rfl

theorem map_object (item : Decoder α) (depth : Nat) (members : List (Option Text × Draft))
    (stop : Option Fault) :
    Decoder.map item depth (.object members stop) = enter depth (fun depth => do
      let entries ← members.mapM (keyed item depth)
      stopped stop (SortedMap.ofList entries)) := rfl

theorem map_draft {write : α → Json} {map : SortedMap α}
    (read : ∀ entry ∈ map.entries, item (depth + 1) (write entry.2).draft = .ok entry.2) :
    Decoder.map item (depth + 2)
      (Json.object (map.entries.map fun entry => (entry.1, write entry.2))).draft = .ok map := by
  have each : (namedDrafts (map.entries.map fun entry => (entry.1, write entry.2))).mapM
      (keyed item (depth + 1)) = .ok map.entries := by
    rw [namedDrafts_eq_map, List.map_map, List.mapM_map]
    refine (mapM_eq_ok fun entry mem => ?_).trans (congrArg Except.ok (List.map_id map.entries))
    simp only [Function.comp_apply, keyed, read entry mem]
    rfl
  rw [draft, map_object, enter_add, each]
  exact congrArg Except.ok map.ofList_entries

theorem optional_draft {value : Json} {result : α} (given : item depth value.draft = .ok result)
    (present : value ≠ .null) : Decoder.optional item depth value.draft = .ok (some result) := by
  unfold Decoder.optional
  split
  · rename_i null
    cases value <;> simp_all [draft]
  · rw [given]
    rfl

section Fields

variable {σ : Type} {fields : List (Field σ)} {other : Text → Decoder (σ → σ)} {start : σ}

theorem members_known {key : Text} {field : Field σ} {change : σ → σ} {draft : Draft}
    (known : fields.find? (fun field => field.name = key) = some field)
    (fresh : field.present start = false) (read : field.read depth draft = .ok change)
    (rest : List (Option Text × Draft)) :
    members fields other depth start ((some key, draft) :: rest) =
      members fields other depth (change start) rest := by
  have first : member fields other depth start key draft = .ok (change start) := by
    simp only [member, known, fresh, read]
    rfl
  exact congrArg (fun given => given >>= fun record => members fields other depth record rest) first

theorem members_unknown {key : Text} {change : σ → σ} {draft : Draft}
    (unknown : fields.find? (fun field => field.name = key) = none)
    (read : other key depth draft = .ok change) (rest : List (Option Text × Draft)) :
    members fields other depth start ((some key, draft) :: rest) =
      members fields other depth (change start) rest := by
  have first : member fields other depth start key draft = .ok (change start) := by
    simp only [member, unknown, read]
    rfl
  exact congrArg (fun given => given >>= fun record => members fields other depth record rest) first

theorem complete_present {field : Field σ} (present : field.present start = true) :
    complete (field :: fields) start = complete fields start :=
  if_pos present

theorem complete_absent {field : Field σ} {next : σ} (absent : field.present start = false)
    (given : field.absent start = .ok next) :
    complete (field :: fields) start = complete fields next := by
  rw [complete, absent, given]
  rfl

theorem complete_eq_self (absent : ∀ field ∈ fields, field.absent start = .ok start) :
    complete fields start = .ok start := by
  induction fields with
  | nil => rfl
  | cons field fields ih =>
    obtain ⟨first, others⟩ := List.forall_mem_cons.1 absent
    cases present : field.present start with
    | true => rw [complete_present present, ih others]
    | false => rw [complete_absent present first, ih others]

variable {entries : List (Option Text × Draft)} {read result : σ}

theorem record_object
    (members_read : members fields skipped (depth + 1) start entries = .ok read)
    (completed : complete fields read = .ok result) :
    record fields start (depth + 2) (.object entries none) = .ok result := by
  rw [record, enter_add, members_read]
  exact completed

theorem openRecord_object
    (members_read : members fields other (depth + 1) start entries = .ok read)
    (completed : complete fields read = .ok result) :
    openRecord fields other start (depth + 2) (.object entries none) = .ok result := by
  rw [openRecord, enter_add, members_read]
  exact completed

end Fields

theorem decode_padded {decoder : Decoder α} {result : α} {whole : Padded} (blank : whole.IsBlank)
    (reads : Reads whole.inner fun draft => decoder depthLimit draft = .ok result) :
    decode decoder whole.text = .ok result := by
  have item : ItemReads whole fun draft => decoder depthLimit draft = .ok result := ⟨blank, reads⟩
  have opened : skipSpace whole.text = whole.inner ++ whole.after := by
    simpa using item.skipSpace []
  have ends : EndsValue whole.after := by
    have nothing : EndsValue [] := by simp [EndsValue]
    simpa using nothing.append blank.2
  have closed : skipSpace whole.after = [] := by
    have skipped := skipSpace_blanks blank.2 []
    rwa [List.append_nil] at skipped
  obtain ⟨draft, read, given⟩ := reads.read opened ends
    (show _ ≤ 3 * whole.text.length + 3 by simp only [Padded.text, List.length_append]; omega)
  have ofText : Draft.ofText whole.text = (draft, some whole.after) := read
  simp only [decode, ofText, given, bind, Except.bind, closed]
  rfl

theorem decode_pretty_append {decoder : Decoder α} {value : Json} {result : α} {after : Text}
    (integral : value.isIntegral = true) (blank : AreBlanks after)
    (read : decoder depthLimit value.draft = .ok result) :
    decode decoder (value.pretty ++ after) = .ok result := by
  have reads := (reads_prettyAt value integral 0).mono fun draft same =>
    show decoder depthLimit draft = .ok result from same ▸ read
  exact decode_padded (show Padded.IsBlank ⟨[], _, after⟩ from ⟨List.forall_mem_nil _, blank⟩) reads

theorem decode_pretty {decoder : Decoder α} {value : Json} {result : α}
    (integral : value.isIntegral = true) (read : decoder depthLimit value.draft = .ok result) :
    decode decoder value.pretty = .ok result := by
  have whole := decode_pretty_append integral (List.forall_mem_nil _) read
  rwa [List.append_nil] at whole

end Written

section Gives

/-- What is decoded, if anything is, has a property. -/
def Gives {α : Type} (result : Except Fault α) (P : α → Prop) : Prop := ∀ a, result = .ok a → P a

variable {α β : Type} {P : α → Prop} {Q : β → Prop}

theorem gives_ok {a : α} (h : P a) : Gives (.ok a) P := by
  rintro _ ⟨⟩
  exact h

theorem gives_error (fault : Fault) : Gives (.error fault) P := by
  rintro _ ⟨⟩

theorem Gives.bind {result : Except Fault α} {next : α → Except Fault β} (first : Gives result P)
    (others : ∀ a, P a → Gives (next a) Q) : Gives (result >>= next) Q := by
  cases result with
  | error fault => exact gives_error fault
  | ok a => exact others a (first a rfl)

theorem gives_next {result : Except Fault α} {next : α → Except Fault β}
    (others : ∀ a, Gives (next a) Q) : Gives (result >>= next) Q :=
  Gives.bind (P := fun _ => True) (fun _ _ => trivial) fun a _ => others a

theorem Gives.mono {result : Except Fault α} {R : α → Prop} (h : Gives result P)
    (weaker : ∀ a, P a → R a) : Gives result R :=
  fun a given => weaker a (h a given)

theorem gives_enter {depth : Nat} {next : Nat → Except Fault α}
    (h : 0 < depth → Gives (next depth) P) : Gives (enter (depth + 1) next) P := by
  cases depth with
  | zero => exact gives_error _
  | succ depth => exact h (Nat.succ_pos depth)

theorem gives_stopped {stop : Option Fault} {a : α} (h : P a) : Gives (stopped stop a) P := by
  cases stop with
  | none => exact gives_ok h
  | some fault => exact gives_error fault

theorem gives_mismatch (wanted : String) (draft : Draft) : Gives (mismatch wanted draft) P := by
  cases draft <;> exact gives_error _

theorem gives_mapM {f : α → Except Fault β} {list : List α} (each : ∀ x ∈ list, Gives (f x) Q) :
    Gives (list.mapM f) fun found => ∀ y ∈ found, Q y := by
  induction list with
  | nil => exact gives_ok (List.forall_mem_nil _)
  | cons x list ih =>
    obtain ⟨first, others⟩ := List.forall_mem_cons.1 each
    rw [List.mapM_cons]
    exact first.bind fun y holds => (ih others).bind fun found all =>
      gives_ok (List.forall_mem_cons.2 ⟨holds, all⟩)

mutual

theorem gives_value : (draft : Draft) → (sound : draft.Sound) → (depth : Nat) →
    Gives (Decoder.value depth draft) fun value =>
      value.isOrdered = true ∧ value.nesting ≤ depth - 1
  | .scalar value, sound, depth => by
    refine gives_ok ?_
    cases value <;> first | exact ⟨rfl, Nat.zero_le _⟩ | cases sound
  | .flawed _, _, _ => gives_error _
  | .broken _ _, _, _ => gives_error _
  | .array _ _, _, 0 => gives_error _
  | .array items stop, sound, depth + 1 => by
    refine gives_enter fun inside => (gives_values items sound depth).bind fun found given => ?_
    obtain ⟨ordered, shallow⟩ := given
    refine gives_stopped ⟨ordered, ?_⟩
    rw [nesting]
    omega
  | .object _ _, _, 0 => gives_error _
  | .object members stop, sound, depth + 1 => by
    refine gives_enter fun inside =>
      (gives_namedValues members sound depth).bind fun found given => ?_
    obtain ⟨ordered, shallow⟩ := given
    -- of several members with one name the last is kept
    have kept : ∀ member ∈ (SortedMap.ofList found).entries, member ∈ found :=
      fun member => SortedMap.mem_of_mem_ofList
    have ordered : membersOrdered (SortedMap.ofList found).entries = true :=
      membersOrdered_iff.2 fun member mem => membersOrdered_iff.1 ordered member (kept member mem)
    have shallow : membersNesting (SortedMap.ofList found).entries ≤ depth - 1 :=
      membersNesting_le_iff.2 fun member mem =>
        membersNesting_le_iff.1 shallow member (kept member mem)
    refine gives_stopped ⟨?_, ?_⟩
    · simp [isOrdered, ordered, (SortedMap.ofList found).ascending]
    · rw [nesting]
      omega

theorem gives_values : (drafts : List Draft) → (sound : Draft.AllSound drafts) → (depth : Nat) →
    Gives (values depth drafts) fun found =>
      areOrdered found = true ∧ itemsNesting found ≤ depth - 1
  | [], _, _ => gives_ok ⟨rfl, Nat.zero_le _⟩
  | draft :: drafts, sound, depth =>
    (gives_value draft sound.1 depth).bind fun item ⟨ordered, shallow⟩ =>
      (gives_values drafts sound.2 depth).bind fun items ⟨allOrdered, allShallow⟩ =>
        gives_ok ⟨by simp [areOrdered, ordered, allOrdered], Nat.max_le.2 ⟨shallow, allShallow⟩⟩

theorem gives_namedValues : (drafts : List (Option Text × Draft)) →
    (sound : Draft.MembersSound drafts) → (depth : Nat) →
    Gives (namedValues depth drafts) fun found =>
      membersOrdered found = true ∧ membersNesting found ≤ depth - 1
  | [], _, _ => gives_ok ⟨rfl, Nat.zero_le _⟩
  | (key, draft) :: drafts, sound, depth =>
    gives_next fun key =>
      (gives_value draft sound.1 depth).bind fun item ⟨ordered, shallow⟩ =>
        (gives_namedValues drafts sound.2 depth).bind fun items ⟨allOrdered, allShallow⟩ =>
          gives_ok ⟨by simp [membersOrdered, ordered, allOrdered],
            Nat.max_le.2 ⟨shallow, allShallow⟩⟩

end

section Records

variable {σ : Type} {fields : List (Field σ)} {other : Text → Decoder (σ → σ)} {depth : Nat}
  {I : σ → Prop}

/-- Whatever the reader of a field or of another member makes of a record, the property is kept. -/
structure Keeps (fields : List (Field σ)) (other : Text → Decoder (σ → σ)) (depth : Nat)
    (I : σ → Prop) : Prop where
  known : ∀ field ∈ fields, ∀ draft : Draft, draft.Sound →
    Gives (field.read depth draft) fun change => ∀ record, I record → I (change record)
  unknown : ∀ key, (∀ field ∈ fields, field.name ≠ key) → ∀ draft : Draft, draft.Sound →
    Gives (other key depth draft) fun change => ∀ record, I record → I (change record)
  absent : ∀ field ∈ fields, ∀ record, I record → Gives (field.absent record) I

theorem gives_complete
    (absent : ∀ field ∈ fields, ∀ record, I record → Gives (field.absent record) I) {record : σ}
    (start : I record) : Gives (complete fields record) I := by
  induction fields generalizing record with
  | nil => exact gives_ok start
  | cons field fields ih =>
    obtain ⟨first, others⟩ := List.forall_mem_cons.1 absent
    rw [complete]
    split
    · exact ih others start
    · exact (first record start).bind fun next kept => ih others kept

theorem Keeps.gives_member (keeps : Keeps fields other depth I) {record : σ} (start : I record)
    (key : Text) {draft : Draft} (sound : draft.Sound) :
    Gives (member fields other depth record key draft) I := by
  rw [member]
  split
  · rename_i field found
    split
    · exact gives_error _
    · exact (keeps.known field (List.mem_of_find?_eq_some found) draft sound).bind
        fun change kept => gives_ok (kept record start)
  · rename_i unknown
    have unknown : ∀ field ∈ fields, field.name ≠ key := by simpa using unknown
    exact (keeps.unknown key unknown draft sound).bind fun change kept =>
      gives_ok (kept record start)

theorem Keeps.gives_members (keeps : Keeps fields other depth I) {record : σ} (start : I record)
    {entries : List (Option Text × Draft)} (sound : Draft.MembersSound entries) :
    Gives (members fields other depth record entries) I := by
  induction entries generalizing record with
  | nil => exact gives_ok start
  | cons entry entries ih =>
    exact gives_next fun key =>
      (keeps.gives_member start key sound.1).bind fun next kept => ih kept sound.2

theorem gives_listed
    (known : ∀ field ∈ fields, ∀ draft : Draft, draft.Sound →
      Gives (field.read depth draft) fun change => ∀ record, I record → I (change record))
    (absent : ∀ field ∈ fields, ∀ record, I record → Gives (field.absent record) I)
    (stop : Option Fault) {drafts : List Draft} (sound : Draft.AllSound drafts) {record : σ}
    (start : I record) : Gives (listed depth stop fields drafts record) I := by
  induction fields generalizing drafts record with
  | nil =>
    cases drafts with
    | nil => exact gives_stopped start
    | cons draft drafts => exact gives_error _
  | cons field fields ih =>
    cases drafts with
    | nil => exact (gives_stopped start).bind fun next kept => gives_complete absent kept
    | cons draft drafts =>
      obtain ⟨first, others⟩ := List.forall_mem_cons.1 known
      exact (first draft sound.1).bind fun change kept =>
        ih others (List.forall_mem_cons.1 absent).2 sound.2 (kept record start)

theorem keeps_skipped
    (known : ∀ field ∈ fields, ∀ draft : Draft, draft.Sound →
      Gives (field.read depth draft) fun change => ∀ record, I record → I (change record))
    (absent : ∀ field ∈ fields, ∀ record, I record → Gives (field.absent record) I) :
    Keeps fields skipped depth I where
  known := known
  unknown _ _ draft _ := by
    cases skimmed : skip draft with
    | error fault =>
      rw [skipped, skimmed]
      exact gives_error fault
    | ok done =>
      rw [skipped, skimmed]
      exact gives_ok fun record kept => kept
  absent := absent

theorem Keeps.gives_record (keeps : Keeps fields skipped depth I) {initial : σ} (start : I initial)
    {draft : Draft} (sound : draft.Sound) : Gives (record fields initial (depth + 1) draft) I := by
  unfold record
  split
  · exact gives_enter fun _ => (keeps.gives_members start sound).bind fun read kept =>
      (gives_stopped kept).bind fun read kept => gives_complete keeps.absent kept
  · rename_i items stop
    exact gives_enter fun _ => gives_listed keeps.known keeps.absent stop sound start
  · exact gives_mismatch _ _

theorem Keeps.gives_openRecord (keeps : Keeps fields other depth I) {initial : σ}
    (start : I initial) {draft : Draft} (sound : draft.Sound) :
    Gives (openRecord fields other initial (depth + 1) draft) I := by
  unfold openRecord
  split
  · exact gives_enter fun _ => (keeps.gives_members start sound).bind fun read kept =>
      (gives_stopped kept).bind fun read kept => gives_complete keeps.absent kept
  · exact gives_mismatch _ _

theorem gives_map {α : Type} {P : α → Prop} {item : Decoder α}
    (each : ∀ draft : Draft, draft.Sound → Gives (item depth draft) P) {draft : Draft}
    (sound : draft.Sound) :
    Gives (Decoder.map item (depth + 1) draft) fun map => ∀ entry ∈ map.entries, P entry.2 := by
  unfold Decoder.map
  split
  · rename_i members stop
    have found : Gives (members.mapM (keyed item depth)) fun found => ∀ entry ∈ found, P entry.2 :=
      gives_mapM fun member mem => gives_next fun key =>
        (each member.2 (Draft.membersSound_iff.1 sound member mem)).bind fun value holds =>
          gives_ok holds
    exact gives_enter fun _ => found.bind fun found all =>
      gives_stopped fun entry mem => all entry (SortedMap.mem_of_mem_ofList mem)
  · exact gives_mismatch _ _

theorem gives_optional {α : Type} {P : α → Prop} {item : Decoder α} {draft : Draft}
    (holds : Gives (item depth draft) P) :
    Gives (Decoder.optional item depth draft) fun found => ∀ value ∈ found, P value := by
  have wrapped : Gives (some <$> item depth draft) fun found => ∀ value ∈ found, P value := by
    cases read : item depth draft with
    | error fault => exact gives_error fault
    | ok value => exact gives_ok (by simpa using holds value read)
  unfold Decoder.optional
  split
  · exact gives_ok (by simp)
  · exact wrapped

theorem gives_decode {α : Type} {P : α → Prop} {decoder : Decoder α}
    (holds : ∀ draft : Draft, draft.Sound → Gives (decoder depthLimit draft) P) (text : Text) :
    Gives (decode decoder text) P := by
  have sound := sound_ofText text
  unfold decode
  generalize Draft.ofText text = reading at sound
  obtain ⟨draft, rest⟩ := reading
  refine (holds draft sound).bind fun value holds => ?_
  split
  · exact gives_ok holds
  · split
    · exact gives_ok holds
    · exact gives_error _

end Records

end Gives

end Decoder

end Json

end MessageHarvest
