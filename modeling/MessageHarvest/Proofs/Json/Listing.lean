import MessageHarvest.Proofs.Json.Reading
import Mathlib.Data.List.Forall2

namespace MessageHarvest.Json

section Steps

theorem readItems_skipSpace (fuel : Nat) (first : Bool) (text : Text) :
    readItems fuel first (skipSpace text) = readItems fuel first text := by
  cases fuel with
  | zero => rfl
  | succ fuel => rw [readItems, readItems, skipSpace_skipSpace]

theorem readMembers_skipSpace (fuel : Nat) (first : Bool) (text : Text) :
    readMembers fuel first (skipSpace text) = readMembers fuel first text := by
  cases fuel with
  | zero => rfl
  | succ fuel => rw [readMembers, readMembers, skipSpace_skipSpace]

theorem readItems_first {fuel : Nat} {text after : Text} (shown : skipSpace text = after)
    (begins : BeginsValue after) : readItems (fuel + 1) true text = readItem fuel after := by
  obtain ⟨c, rest, rfl, -, other⟩ := begins
  rw [readItems, shown]
  split
  · contradiction
  · rename_i same
    exact absurd (List.cons.inj same).1 other
  · rename_i same
    obtain ⟨rfl, rfl⟩ := List.cons.inj same
    rfl

theorem readItems_next {fuel : Nat} {text after : Text} (shown : skipSpace text = after)
    (begins : BeginsValue after) :
    readItems (fuel + 1) false (',' :: text) = readItem fuel after := by
  obtain ⟨c, rest, rfl, -, other⟩ := begins
  rw [readItems, skipSpace_solid rfl]
  simp [shown, other]

theorem readItem_succ {fuel : Nat} {text rest : Text} {item : Draft} {items : List Draft}
    {stop : Option Fault} {after : Option Text} (first : readDraft fuel text = (item, some rest))
    (others : readItems fuel false rest = (items, stop, after)) :
    readItem (fuel + 1) text = (item :: items, stop, after) := by
  rw [readItem, first]
  simp only [others]

theorem readMembers_first {fuel : Nat} {text rest : Text} (shown : skipSpace text = '"' :: rest) :
    readMembers (fuel + 1) true text = readMember fuel ('"' :: rest) := by
  rw [readMembers, shown]
  rfl

theorem readMembers_next {fuel : Nat} {text rest : Text} (shown : skipSpace text = '"' :: rest) :
    readMembers (fuel + 1) false (',' :: text) = readMember fuel ('"' :: rest) := by
  rw [readMembers, skipSpace_solid rfl]
  simp [shown]

theorem readMember_succ {fuel : Nat} {body between value rest : Text} {name : Option Text}
    {item : Draft} {members : List (Option Text × Draft)} {stop : Option Fault}
    {after : Option Text} (key : readKey body = .key name between)
    (colon : skipSpace between = ':' :: value) (first : readDraft fuel value = (item, some rest))
    (others : readMembers fuel false rest = (members, stop, after)) :
    readMember (fuel + 1) ('"' :: body) = ((name, item) :: members, stop, after) := by
  rw [readMember, key]
  simp only [colon, first, others]

end Steps

section Lists

def behind (closing : Char) : List Text → Text
  | [] => [closing]
  | item :: items => ',' :: (item ++ behind closing items)

theorem join_behind (closing : Char) (item : Text) (items : List Text) :
    Text.join [','] (item :: items) ++ [closing] = item ++ behind closing items := by
  induction items generalizing item with
  | nil => rfl
  | cons next items ih =>
    have later := ih next
    simp only [Text.join, List.append_assoc, later, behind, List.cons_append, List.nil_append]

theorem listing_cons_append (closing : Char) (blanks item : Text) (items : List Text)
    (rest : Text) :
    listing blanks (item :: items) ++ closing :: rest = item ++ (behind closing items ++ rest) := by
  change Text.join [','] (item :: items) ++ closing :: rest = _
  rw [← List.append_assoc, ← join_behind, List.append_assoc, List.singleton_append]

theorem endsValue_behind {closing : Char} (closes : closing = ']' ∨ closing = '\x7d')
    (items : List Text) (rest : Text) : EndsValue (behind closing items ++ rest) := by
  cases items with
  | nil =>
    intro c mem
    obtain rfl := Option.some.inj mem
    exact .inr (.inr closes)
  | cons item items =>
    intro c mem
    obtain rfl := Option.some.inj mem
    exact .inr (.inl rfl)

variable {ι : Type} {rest : Text} {fuel : Nat}

section Arrays

structure ItemReads (item : Padded) (P : Draft → Prop) : Prop where
  blank : item.IsBlank
  reads : Reads item.inner P

variable {item : Padded} {P : Draft → Prop} {R : List Draft → Prop}

theorem ItemReads.skipSpace (given : ItemReads item P) (rest : Text) :
    Json.skipSpace (item.text ++ rest) = item.inner ++ (item.after ++ rest) := by
  rw [Padded.text, List.append_assoc, List.append_assoc, skipSpace_blanks given.blank.1,
    (given.reads.begins.append _).skipSpace]

theorem ItemReads.readItem (given : ItemReads item P) (ends : EndsValue rest) {after : Text}
    (enough : 3 * (item.inner ++ (item.after ++ rest)).length + 1 ≤ fuel)
    (others : 3 * rest.length + 3 ≤ fuel →
      ∃ drafts, readItems fuel false rest = (drafts, none, some after) ∧ R drafts) :
    ∃ draft drafts, Json.readItem (fuel + 1) (item.inner ++ (item.after ++ rest)) =
      (draft :: drafts, none, some after) ∧ P draft ∧ R drafts := by
  have some : 0 < item.inner.length := given.reads.begins.length_pos
  obtain ⟨drafts, read, all⟩ := others (by simp only [List.length_append] at enough; omega)
  obtain ⟨draft, first, holds⟩ := given.reads.read (given.reads.begins.append _).skipSpace
    (ends.append given.blank.2) enough
  rw [← readItems_skipSpace, ← skipSpace_blanks given.blank.2, readItems_skipSpace] at read
  exact ⟨draft, drafts, readItem_succ first read, holds, all⟩

variable {Wanted : ι → Draft → Prop}

theorem readItems_behind {items : List Padded} {wanted : List ι}
    (given : List.Forall₂ (fun item want => ItemReads item (Wanted want)) items wanted)
    (enough : 3 * (behind ']' (items.map Padded.text) ++ rest).length + 3 ≤ fuel) :
    ∃ drafts, readItems fuel false (behind ']' (items.map Padded.text) ++ rest) =
      (drafts, none, some rest) ∧ List.Forall₂ Wanted wanted drafts := by
  induction given generalizing fuel with
  | nil =>
    obtain ⟨fuel, rfl⟩ := Nat.exists_eq_add_of_le' (show 1 ≤ fuel by omega)
    exact ⟨[], rfl, .nil⟩
  | @cons item want items wanted first others ih =>
    rw [List.map_cons, behind, List.cons_append, List.append_assoc] at enough ⊢
    obtain ⟨fuel, rfl⟩ := Nat.exists_eq_add_of_le' (show 2 ≤ fuel by omega)
    have inside : 3 * (item.inner ++
        (item.after ++ (behind ']' (items.map Padded.text) ++ rest))).length + 1 ≤ fuel := by
      simp only [Padded.text, List.length_cons, List.length_append] at enough ⊢
      omega
    obtain ⟨draft, drafts, read, holds, all⟩ :=
      first.readItem (endsValue_behind (.inl rfl) _ rest) inside ih
    rw [readItems_next (first.skipSpace _) (first.reads.begins.append _), read]
    exact ⟨draft :: drafts, rfl, .cons holds all⟩

theorem readItems_listing {blanks : Text} (blank : AreBlanks blanks) {items : List Padded}
    {wanted : List ι}
    (given : List.Forall₂ (fun item want => ItemReads item (Wanted want)) items wanted)
    (enough : 3 * (listing blanks (items.map Padded.text) ++ ']' :: rest).length + 3 ≤ fuel) :
    ∃ drafts, readItems fuel true (listing blanks (items.map Padded.text) ++ ']' :: rest) =
      (drafts, none, some rest) ∧ List.Forall₂ Wanted wanted drafts := by
  obtain ⟨fuel, rfl⟩ := Nat.exists_eq_add_of_le' (show 2 ≤ fuel by omega)
  cases given with
  | nil =>
    have closed : skipSpace (blanks ++ ']' :: rest) = ']' :: rest :=
      (skipSpace_blanks blank _).trans (skipSpace_solid rfl rest)
    refine ⟨[], ?_, .nil⟩
    rw [List.map_nil, listing, readItems, closed]
    rfl
  | @cons item want items wanted first others =>
    rw [List.map_cons, listing_cons_append] at enough ⊢
    have inside : 3 * (item.inner ++
        (item.after ++ (behind ']' (items.map Padded.text) ++ rest))).length + 1 ≤ fuel := by
      simp only [Padded.text, List.length_append] at enough ⊢
      omega
    obtain ⟨draft, drafts, read, holds, all⟩ :=
      first.readItem (endsValue_behind (.inl rfl) _ rest) inside (readItems_behind others)
    rw [readItems_first (first.skipSpace _) (first.reads.begins.append _), read]
    exact ⟨draft :: drafts, rfl, .cons holds all⟩

theorem reads_array {blanks : Text} (blank : AreBlanks blanks) {items : List Padded}
    {wanted : List ι}
    (given : List.Forall₂ (fun item want => ItemReads item (Wanted want)) items wanted) :
    Reads (arrayText blanks items)
      fun draft => ∃ drafts, draft = .array drafts none ∧ List.Forall₂ Wanted wanted drafts where
  begins := ⟨'[', _, rfl, rfl, by decide⟩
  read {fuel shown rest} opened ends enough := by
    have whole : arrayText blanks items ++ rest =
        '[' :: (listing blanks (items.map Padded.text) ++ ']' :: rest) := by
      simp [arrayText]
    rw [whole] at opened enough
    rw [List.length_cons] at enough
    obtain ⟨fuel, rfl⟩ := Nat.exists_eq_add_of_le' (show 1 ≤ fuel by omega)
    have inside : 3 * (listing blanks (items.map Padded.text) ++ ']' :: rest).length + 3 ≤ fuel :=
      Nat.le_of_succ_le_succ enough
    obtain ⟨drafts, read, all⟩ := readItems_listing blank given inside
    refine ⟨.array drafts none, ?_, drafts, rfl, all⟩
    rw [readDraft, opened]
    simp only [read]

end Arrays

section Objects

structure MemberReads (member : Member) (P : Option Text × Draft → Prop) : Prop where
  blank : member.IsBlank
  reads : ∃ points, Spells member.key.inner points ∧
    Reads member.value.inner fun draft => P (Text.ofUnits? points, draft)

variable {member : Member} {P : Option Text × Draft → Prop}
  {R : List (Option Text × Draft) → Prop}

def Member.opened (member : Member) (rest : Text) : Text :=
  member.key.inner ++ '"' :: (member.key.after ++ ':' :: (member.value.text ++ rest))

theorem Member.text_append (member : Member) (rest : Text) :
    member.text ++ rest = member.key.before ++ '"' :: member.opened rest := by
  simp [Member.text, Member.opened, Padded.text, quoted]

theorem Member.length_opened_lt (member : Member) (rest : Text) :
    (member.opened rest).length < (member.text ++ rest).length := by
  rw [member.text_append, List.length_append, List.length_cons]
  omega

theorem MemberReads.skipSpace (given : MemberReads member P) (rest : Text) :
    Json.skipSpace (member.text ++ rest) = '"' :: member.opened rest := by
  rw [member.text_append, skipSpace_blanks given.blank.1.1, skipSpace_solid rfl]

theorem MemberReads.readMember (given : MemberReads member P) (ends : EndsValue rest) {after : Text}
    (enough : 3 * (member.opened rest).length + 1 ≤ fuel)
    (others : 3 * rest.length + 3 ≤ fuel →
      ∃ entries, readMembers fuel false rest = (entries, none, some after) ∧ R entries) :
    ∃ entry entries, Json.readMember (fuel + 1) ('"' :: member.opened rest) =
      (entry :: entries, none, some after) ∧ P entry ∧ R entries := by
  obtain ⟨⟨-, beforeColon⟩, beforeValue, afterValue⟩ := given.blank
  obtain ⟨points, spelled, value⟩ := given.reads
  simp only [Member.opened, Padded.text, List.length_append, List.length_cons] at enough
  obtain ⟨entries, read, all⟩ := others (by omega)
  have key : readKey (member.opened rest) = .key (Text.ofUnits? points)
      (member.key.after ++ ':' :: (member.value.text ++ rest)) := by
    rw [readKey, Member.opened, StringReading.continueFrom_spells spelled]
    rfl
  have colon : Json.skipSpace (member.key.after ++ ':' :: (member.value.text ++ rest)) =
      ':' :: (member.value.text ++ rest) :=
    (skipSpace_blanks beforeColon _).trans (skipSpace_solid rfl _)
  have shown : Json.skipSpace (member.value.text ++ rest) =
      member.value.inner ++ (member.value.after ++ rest) :=
    ItemReads.skipSpace ⟨⟨beforeValue, afterValue⟩, value⟩ rest
  obtain ⟨draft, first, holds⟩ := value.read shown (ends.append afterValue)
    (show 3 * _ + 1 ≤ fuel by simp only [List.length_append]; omega)
  rw [← readMembers_skipSpace, ← skipSpace_blanks afterValue, readMembers_skipSpace] at read
  exact ⟨_, entries, readMember_succ key colon first read, holds, all⟩

variable {Wanted : ι → Option Text × Draft → Prop}

theorem readMembers_behind {members : List Member} {wanted : List ι}
    (given : List.Forall₂ (fun member want => MemberReads member (Wanted want)) members wanted)
    (enough : 3 * (behind '\x7d' (members.map Member.text) ++ rest).length + 3 ≤ fuel) :
    ∃ entries, readMembers fuel false (behind '\x7d' (members.map Member.text) ++ rest) =
      (entries, none, some rest) ∧ List.Forall₂ Wanted wanted entries := by
  induction given generalizing fuel with
  | nil =>
    obtain ⟨fuel, rfl⟩ := Nat.exists_eq_add_of_le' (show 1 ≤ fuel by omega)
    exact ⟨[], rfl, .nil⟩
  | @cons member want members wanted first others ih =>
    rw [List.map_cons, behind, List.cons_append, List.append_assoc] at enough ⊢
    obtain ⟨fuel, rfl⟩ := Nat.exists_eq_add_of_le' (show 2 ≤ fuel by omega)
    have shorter := member.length_opened_lt (behind '\x7d' (members.map Member.text) ++ rest)
    rw [List.length_cons] at enough
    obtain ⟨entry, entries, read, holds, all⟩ :=
      first.readMember (endsValue_behind (.inr rfl) _ rest) (show _ ≤ fuel by omega) ih
    rw [readMembers_next (first.skipSpace _), read]
    exact ⟨entry :: entries, rfl, .cons holds all⟩

theorem readMembers_listing {blanks : Text} (blank : AreBlanks blanks) {members : List Member}
    {wanted : List ι}
    (given : List.Forall₂ (fun member want => MemberReads member (Wanted want)) members wanted)
    (enough : 3 * (listing blanks (members.map Member.text) ++ '\x7d' :: rest).length + 3 ≤ fuel) :
    ∃ entries, readMembers fuel true (listing blanks (members.map Member.text) ++ '\x7d' :: rest) =
      (entries, none, some rest) ∧ List.Forall₂ Wanted wanted entries := by
  obtain ⟨fuel, rfl⟩ := Nat.exists_eq_add_of_le' (show 2 ≤ fuel by omega)
  cases given with
  | nil =>
    have closed : skipSpace (blanks ++ '\x7d' :: rest) = '\x7d' :: rest :=
      (skipSpace_blanks blank _).trans (skipSpace_solid rfl rest)
    refine ⟨[], ?_, .nil⟩
    rw [List.map_nil, listing, readMembers, closed]
    rfl
  | @cons member want members wanted first others =>
    rw [List.map_cons, listing_cons_append] at enough ⊢
    have shorter := member.length_opened_lt (behind '\x7d' (members.map Member.text) ++ rest)
    obtain ⟨entry, entries, read, holds, all⟩ :=
      first.readMember (endsValue_behind (.inr rfl) _ rest) (show _ ≤ fuel by omega)
        (readMembers_behind others)
    rw [readMembers_first (first.skipSpace _), read]
    exact ⟨entry :: entries, rfl, .cons holds all⟩

theorem reads_object {blanks : Text} (blank : AreBlanks blanks) {members : List Member}
    {wanted : List ι}
    (given : List.Forall₂ (fun member want => MemberReads member (Wanted want)) members wanted) :
    Reads (objectText blanks members)
      fun draft => ∃ entries, draft = .object entries none ∧ List.Forall₂ Wanted wanted entries where
  begins := ⟨'\x7b', _, rfl, rfl, by decide⟩
  read {fuel shown rest} opened ends enough := by
    have whole : objectText blanks members ++ rest =
        '\x7b' :: (listing blanks (members.map Member.text) ++ '\x7d' :: rest) := by
      simp [objectText]
    rw [whole] at opened enough
    rw [List.length_cons] at enough
    obtain ⟨fuel, rfl⟩ := Nat.exists_eq_add_of_le' (show 1 ≤ fuel by omega)
    have inside :
        3 * (listing blanks (members.map Member.text) ++ '\x7d' :: rest).length + 3 ≤ fuel :=
      Nat.le_of_succ_le_succ enough
    obtain ⟨entries, read, all⟩ := readMembers_listing blank given inside
    refine ⟨.object entries none, ?_, entries, rfl, all⟩
    rw [readDraft, opened]
    simp only [read]

end Objects

end Lists

theorem map_eq_of_forall₂ {α β : Type} {f : α → β} {xs : List α} {ys : List β}
    (all : List.Forall₂ (fun x y => f x = y) xs ys) : xs.map f = ys :=
  List.forall₂_eq_eq_eq ▸ List.forall₂_map_left_iff.2 all

section Skipped

variable {ι : Type} {wanted : List ι}

theorem Decoder.skipItems_eq_ok {drafts : List Draft}
    (skipped : List.Forall₂ (fun _ draft => skip draft = .ok ()) wanted drafts) :
    skipItems drafts = .ok () := by
  induction skipped with
  | nil => rfl
  | cons first others ih =>
    rw [skipItems, first]
    exact ih

theorem Decoder.skipMembers_eq_ok {entries : List (Option Text × Draft)}
    (skipped : List.Forall₂ (fun _ entry => skip entry.2 = .ok ()) wanted entries) :
    skipMembers entries = .ok () := by
  induction skipped with
  | nil => rfl
  | cons first others ih =>
    rw [skipMembers, first]
    exact ih

/-- Numbers out of range, lone surrogates and deep nesting are no faults of a value that is
skipped. -/
theorem IsValue.reads {text : Text} (value : IsValue text) :
    Reads text (Decoder.skip · = .ok ()) := by
  induction value with
  | null => exact reads_null.mono (by rintro _ rfl; rfl)
  | true => exact reads_true.mono (by rintro _ rfl; rfl)
  | false => exact reads_false.mono (by rintro _ rfl; rfl)
  | number number => exact number.reads
  | string spelled => exact spelled.reads
  | array blank padded values ih =>
    refine (reads_array blank (List.forall₂_same.2 fun item mem =>
      ⟨padded item mem, ih item mem⟩)).mono ?_
    rintro _ ⟨drafts, rfl, skipped⟩
    rw [Decoder.skip, Decoder.skipItems_eq_ok skipped]
    rfl
  | @object blanks members blank padded keys values ih =>
    have each : ∀ member ∈ members, MemberReads member fun entry => Decoder.skip entry.2 = .ok () :=
      fun member mem => by
        obtain ⟨points, spelled⟩ := keys member mem
        exact ⟨padded member mem, points, spelled, ih member mem⟩
    refine (reads_object blank (List.forall₂_same.2 each)).mono ?_
    rintro _ ⟨entries, rfl, skipped⟩
    rw [Decoder.skip, Decoder.skipMembers_eq_ok skipped]
    rfl

end Skipped

end MessageHarvest.Json
