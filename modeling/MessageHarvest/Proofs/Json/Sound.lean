import MessageHarvest.Json.Draft

namespace MessageHarvest.Json

def isScalar : Json → Bool
  | .array _ => false
  | .object _ => false
  | _ => true

mutual

def Draft.Sound : Draft → Prop
  | .scalar value => value.isScalar = true
  | .array items _ => Draft.AllSound items
  | .object members _ => Draft.MembersSound members
  | _ => True

def Draft.AllSound : List Draft → Prop
  | [] => True
  | item :: items => item.Sound ∧ Draft.AllSound items

def Draft.MembersSound : List (Option Text × Draft) → Prop
  | [] => True
  | (_, value) :: members => value.Sound ∧ Draft.MembersSound members

end

theorem Draft.membersSound_iff {members : List (Option Text × Draft)} :
    Draft.MembersSound members ↔ ∀ member ∈ members, member.2.Sound := by
  induction members with
  | nil => simp [Draft.MembersSound]
  | cons member members ih => simp [Draft.MembersSound, ih]

theorem sound_readString (rest : Text) : (readString rest).1.Sound := by
  unfold readString
  split <;> simp [Draft.Sound, isScalar]

theorem isScalar_of_value? {number : Written} {value : Json} (h : number.value? = some value) :
    value.isScalar = true := by
  unfold Written.value? at h
  grind [isScalar]

theorem sound_readNumber (text : Text) : (readNumber text).1.Sound := by
  unfold readNumber
  split
  · split
    · rename_i given
      exact isScalar_of_value? given
    · trivial
  · trivial
  · trivial

theorem sound_readWord {value : Json} (scalar : value.isScalar = true) (word text : Text) :
    (readWord value word text).1.Sound := by
  induction word generalizing text with
  | nil => exact scalar
  | cons c word ih =>
    cases text with
    | nil => trivial
    | cons d rest =>
      rw [readWord]
      split
      · exact ih rest
      · trivial

structure SoundReaders (fuel : Nat) : Prop where
  draft : ∀ text, (readDraft fuel text).1.Sound
  items : ∀ first text, Draft.AllSound (readItems fuel first text).1
  item : ∀ text, Draft.AllSound (readItem fuel text).1
  members : ∀ first text, Draft.MembersSound (readMembers fuel first text).1
  member : ∀ text, Draft.MembersSound (readMember fuel text).1

namespace SoundReaders

variable {fuel : Nat} (readers : SoundReaders fuel)

include readers

theorem sound_readDraft (text : Text) : (readDraft (fuel + 1) text).1.Sound := by
  rw [readDraft]
  split
  · trivial
  · exact sound_readString _
  · exact readers.items ..
  · exact readers.members ..
  · exact sound_readWord rfl ..
  · exact sound_readWord rfl ..
  · exact sound_readWord rfl ..
  · split
    · exact sound_readNumber _
    · trivial

theorem sound_readItems (first : Bool) (text : Text) :
    Draft.AllSound (readItems (fuel + 1) first text).1 := by
  rw [readItems]
  split
  · trivial
  · trivial
  · split
    · exact readers.item _
    · split
      · split
        · trivial
        · exact readers.item _
      · trivial

theorem sound_readItem (text : Text) : Draft.AllSound (readItem (fuel + 1) text).1 := by
  have first := readers.draft text
  rw [readItem]
  split
  · rename_i read
    rw [read] at first
    exact ⟨first, trivial⟩
  · rename_i rest read
    rw [read] at first
    exact ⟨first, readers.items false rest⟩

theorem sound_readMembers (first : Bool) (text : Text) :
    Draft.MembersSound (readMembers (fuel + 1) first text).1 := by
  rw [readMembers]
  split
  · trivial
  · trivial
  · split
    · exact readers.member _
    · split
      · split
        · trivial
        · trivial
        · exact readers.member _
      · trivial

theorem sound_readMember (text : Text) : Draft.MembersSound (readMember (fuel + 1) text).1 := by
  unfold readMember
  split
  · split
    · trivial
    · split
      · rename_i rest _
        have first := readers.draft rest
        split
        · rename_i read
          rw [read] at first
          exact ⟨first, trivial⟩
        · rename_i after read
          rw [read] at first
          exact ⟨first, readers.members false after⟩
      · exact ⟨trivial, trivial⟩
      · exact ⟨trivial, trivial⟩
  · trivial

end SoundReaders

theorem soundReaders (fuel : Nat) : SoundReaders fuel := by
  induction fuel with
  | zero =>
    exact ⟨fun _ => trivial, fun _ _ => trivial, fun _ => trivial, fun _ _ => trivial,
      fun _ => trivial⟩
  | succ fuel ih =>
    exact ⟨ih.sound_readDraft, ih.sound_readItems, ih.sound_readItem, ih.sound_readMembers,
      ih.sound_readMember⟩

theorem sound_ofText (text : Text) : (Draft.ofText text).1.Sound := (soundReaders _).draft text

end MessageHarvest.Json
