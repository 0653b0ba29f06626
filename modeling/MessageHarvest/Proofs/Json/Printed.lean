import MessageHarvest.Proofs.Json.Listing

namespace MessageHarvest.Json

mutual

def draft : Json → Draft
  | .array items => .array (drafts items) none
  | .object members => .object (namedDrafts members) none
  | value => .scalar value

def drafts : List Json → List Draft
  | [] => []
  | item :: items => item.draft :: drafts items

def namedDrafts : List (Text × Json) → List (Option Text × Draft)
  | [] => []
  | (name, value) :: members => (some name, value.draft) :: namedDrafts members

end

mutual

def isIntegral : Json → Bool
  | .decimal _ => false
  | .integer value => decide (IsWord value)
  | .array items => areIntegral items
  | .object members => membersIntegral members
  | _ => true

def areIntegral : List Json → Bool
  | [] => true
  | item :: items => item.isIntegral && areIntegral items

def membersIntegral : List (Text × Json) → Bool
  | [] => true
  | (_, value) :: members => value.isIntegral && membersIntegral members

end

theorem areIntegral_iff {items : List Json} :
    areIntegral items = true ↔ ∀ item ∈ items, item.isIntegral = true := by
  induction items with
  | nil => simp [areIntegral]
  | cons item items ih => simp [areIntegral, ih]

theorem membersIntegral_iff {members : List (Text × Json)} :
    membersIntegral members = true ↔ ∀ member ∈ members, member.2.isIntegral = true := by
  induction members with
  | nil => simp [membersIntegral]
  | cons member members ih => simp [membersIntegral, ih]

theorem isIntegral_ofTexts (texts : List Text) : (ofTexts texts).isIntegral = true :=
  areIntegral_iff.2 (List.forall_mem_map.2 fun _ _ => rfl)

theorem namedDrafts_eq_map (members : List (Text × Json)) :
    namedDrafts members = members.map fun member => (some member.1, member.2.draft) := by
  induction members with
  | nil => rfl
  | cons member members ih => rw [namedDrafts, ih, List.map_cons]

theorem drafts_eq_map (items : List Json) : drafts items = items.map draft := by
  induction items with
  | nil => rfl
  | cons item items ih => rw [drafts, ih, List.map_cons]

section Strings

variable {body : Text} {points : List Nat}

theorem spells_short {c letter : Char} {unit : Nat} (escape : (letter, unit) ∈ shortEscapes)
    (same : c.toNat = unit) (others : Spells body points) :
    Spells ('\\' :: letter :: body) (c.toNat :: points) := by
  rw [same]
  exact .short escape others

theorem spells_escape (c : Char) (others : Spells body points) :
    Spells (escape c ++ body) (c.toNat :: points) := by
  unfold escape
  split_ifs with quote backslash newline back tab backspace feed control
  · exact spells_short (by decide) (congrArg Char.toNat quote) others
  · exact spells_short (by decide) (congrArg Char.toNat backslash) others
  · exact spells_short (by decide) (congrArg Char.toNat newline) others
  · exact spells_short (by decide) (congrArg Char.toNat back) others
  · exact spells_short (by decide) (congrArg Char.toNat tab) others
  · exact spells_short (by decide) backspace others
  · exact spells_short (by decide) feed others
  · have read : ∀ m < 0x20,
        Text.takeHex? 4 0 ['0', '0', hexDigit (m / 16), hexDigit (m % 16)] = some (m, []) := by
      decide
    exact .unit (read c.toNat control) others
  · exact .plain (Nat.not_lt.1 control) quote backslash others

theorem denotes_escape (text : Text) : Denotes (text.flatMap escape) text := by
  refine ⟨text.map Char.toNat, ?_, List.flatMap_map ..⟩
  induction text with
  | nil => exact .nothing
  | cons c text ih => exact spells_escape c ih

end Strings

section Blocks

def afterItem {α : Type} (depth : Nat) : List α → Text
  | [] => '\n' :: indent depth
  | _ => []

def blockLines (depth : Nat) : List Text → List Text
  | [] => []
  | item :: items =>
      ('\n' :: (indent (depth + 1) ++ (item ++ afterItem depth items))) :: blockLines depth items

def blockItems (depth : Nat) : List Text → List Padded
  | [] => []
  | item :: items =>
      ⟨'\n' :: indent (depth + 1), item, afterItem depth items⟩ :: blockItems depth items

def blockMembers (depth : Nat) : List (Text × Json) → List Member
  | [] => []
  | (name, value) :: members =>
      ⟨⟨'\n' :: indent (depth + 1), name.flatMap escape, []⟩,
        ⟨[' '], prettyAt (depth + 1) value, afterItem depth members⟩⟩ :: blockMembers depth members

theorem printBlock_eq_listing (opening closing : Char) (depth : Nat) (printed : List Text) :
    printBlock opening closing depth printed =
      opening :: (listing [] (blockLines depth printed) ++ [closing]) := by
  cases printed with
  | nil => rfl
  | cons item items =>
    have lines : Text.join [','] (blockLines depth (item :: items)) =
        '\n' :: (Text.join [',', '\n'] ((item :: items).map (indent (depth + 1) ++ ·)) ++
          '\n' :: indent depth) := by
      induction items generalizing item with
      | nil => simp [blockLines, afterItem, Text.join]
      | cons next items ih =>
        have later := ih next
        simp only [blockLines, afterItem, List.map_cons, Text.join] at later ⊢
        rw [later]
        simp
    change opening :: '\n' :: _ ++ '\n' :: indent depth ++ [closing] =
      opening :: (Text.join [','] (blockLines depth (item :: items)) ++ [closing])
    rw [lines]
    simp

theorem map_text_blockItems (depth : Nat) (items : List Text) :
    (blockItems depth items).map Padded.text = blockLines depth items := by
  induction items with
  | nil => rfl
  | cons item items ih => rw [blockItems, blockLines, List.map_cons, ih]; rfl

theorem map_text_blockMembers (depth : Nat) (members : List (Text × Json)) :
    (blockMembers depth members).map Member.text =
      blockLines depth (prettyMembers (depth + 1) members) := by
  induction members with
  | nil => rfl
  | cons member members ih =>
    have last : afterItem depth (prettyMembers (depth + 1) members) = afterItem depth members := by
      cases members <;> rfl
    rw [blockMembers, prettyMembers, blockLines, List.map_cons, ih, last]
    simp [Member.text, Padded.text, quoted, printString]

theorem areBlanks_line (depth : Nat) : AreBlanks ('\n' :: indent depth) := by
  refine List.forall_mem_cons.2 ⟨rfl, fun c mem => ?_⟩
  rw [(List.mem_replicate.1 mem).2]
  rfl

theorem areBlanks_afterItem {α : Type} (depth : Nat) (items : List α) :
    AreBlanks (afterItem depth items) := by
  cases items with
  | nil => exact areBlanks_line depth
  | cons item items => exact List.forall_mem_nil _

end Blocks

section Values

theorem printInteger_begins (value : Int) :
    ∃ c rest, printInteger value = c :: rest ∧ (c = '-' ∨ c.isDigit = true) := by
  cases value with
  | ofNat n =>
    cases digits : Text.ofNat n with
    | nil => exact absurd digits Nat.toDigits_ne_nil
    | cons c more =>
      exact ⟨c, more, digits, .inr (Text.isDigit_of_mem_ofNat (n := n) (by simp [digits]))⟩
  | negSucc n => exact ⟨'-', _, rfl, .inl rfl⟩

theorem reads_printInteger {value : Int} (word : IsWord value) :
    Reads (printInteger value) (.scalar (.integer value) = ·) := by
  obtain ⟨c, more, printed, first⟩ := printInteger_begins value
  refine reads_leaf (printed ▸ beginsValue_number first) fun opened ends => ?_
  have read := readNumber_printInteger word ends.endsNumber
  rw [printed, List.cons_append] at opened read
  exact ⟨_, (readDraft_number first opened).trans read, rfl⟩

mutual

theorem reads_prettyAt : (value : Json) → (integral : value.isIntegral = true) → (depth : Nat) →
    Reads (prettyAt depth value) (value.draft = ·)
  | .null, _, _ => reads_null
  | .bool true, _, _ => reads_true
  | .bool false, _, _ => reads_false
  | .integer value, integral, _ => reads_printInteger (by simpa [isIntegral] using integral)
  | .string text, _, _ => (denotes_escape text).reads
  | .array items, integral, depth => by
    have given := reads_blockItems items (by simpa [isIntegral] using integral) depth
    rw [prettyAt, printBlock_eq_listing, ← map_text_blockItems]
    refine (reads_array (List.forall_mem_nil _) given).mono ?_
    rintro _ ⟨drafts, rfl, all⟩
    rw [draft, drafts_eq_map, map_eq_of_forall₂ all]
  | .object members, integral, depth => by
    have given := reads_blockMembers members (by simpa [isIntegral] using integral) depth
    rw [prettyAt, printBlock_eq_listing, ← map_text_blockMembers]
    refine (reads_object (List.forall_mem_nil _) given).mono ?_
    rintro _ ⟨entries, rfl, all⟩
    rw [draft, namedDrafts_eq_map, map_eq_of_forall₂ all]

theorem reads_blockItems : (items : List Json) → (integral : areIntegral items = true) →
    (depth : Nat) → List.Forall₂ (fun item value => ItemReads item (value.draft = ·))
      (blockItems depth (prettyItems (depth + 1) items)) items
  | [], _, _ => .nil
  | item :: items, integral, depth => by
    obtain ⟨first, others⟩ : item.isIntegral = true ∧ areIntegral items = true := by
      simpa [areIntegral] using integral
    rw [prettyItems, blockItems]
    exact .cons ⟨⟨areBlanks_line _, areBlanks_afterItem _ _⟩, reads_prettyAt item first (depth + 1)⟩
      (reads_blockItems items others depth)

theorem reads_blockMembers : (members : List (Text × Json)) →
    (integral : membersIntegral members = true) → (depth : Nat) →
    List.Forall₂ (fun member value => MemberReads member ((some value.1, value.2.draft) = ·))
      (blockMembers depth members) members
  | [], _, _ => .nil
  | (name, value) :: members, integral, depth => by
    obtain ⟨first, others⟩ : value.isIntegral = true ∧ membersIntegral members = true := by
      simpa [membersIntegral] using integral
    obtain ⟨points, spelled, units⟩ := (denotes_escape name).exists_points
    have key_blank : AreBlanks ('\n' :: indent (depth + 1)) ∧ AreBlanks [] :=
      ⟨areBlanks_line _, List.forall_mem_nil _⟩
    have value_blank : AreBlanks [' '] ∧ AreBlanks (afterItem depth members) :=
      ⟨List.forall_mem_singleton.2 rfl, areBlanks_afterItem _ _⟩
    have value_reads := (reads_prettyAt value first (depth + 1)).mono fun draft same =>
      show (some name, value.draft) = (Text.ofUnits? points, draft) by rw [units, same]
    exact .cons ⟨⟨key_blank, value_blank⟩, points, spelled, value_reads⟩
      (reads_blockMembers members others depth)

end

end Values

end MessageHarvest.Json
