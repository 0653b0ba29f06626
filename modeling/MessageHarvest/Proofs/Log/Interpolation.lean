import MessageHarvest.Harvest.Run
import Mathlib.Data.List.Basic

/-!
Log messages whose placeholders are filled. The values are put in one after another, so that one of
them may make a place for a later one; where none does, each placeholder of the message is filled
once, and all else stands as it was.
-/

namespace MessageHarvest

theorem Text.hasBeginning_iff {s t : Text} : hasBeginning s t = true ↔ s <+: t := by
  rw [hasBeginning, Option.isSome_iff_exists]
  exact exists_congr fun rest => dropBeginning?_eq_some_iff.trans eq_comm

namespace LogRecord

def IsPlain (key : Text) : Prop := '\x7b' ∉ key ∧ '\x7d' ∉ key

instance (key : Text) : Decidable (IsPlain key) := inferInstanceAs (Decidable (_ ∧ _))

def places (key : Text) : Text → Nat
  | [] => 0
  | c :: rest =>
      (if Text.hasBeginning (placeholder key) (c :: rest) then 1 else 0) + places key rest

def valueIn (context : List (Text × Text)) (key : Text) : Option Text :=
  (context.find? (fun entry => entry.1 = key)).map (·.2)

/-- A message in which every placeholder that has a value is replaced by it, and nothing else is. -/
inductive Filled (value? : Text → Option Text) : Text → Text → Prop
  | nothing : Filled value? [] []
  | value {key value rest filled : Text} (held : value? key = some value)
      (others : Filled value? rest filled) : Filled value? (placeholder key ++ rest) (value ++ filled)
  | verbatim {c : Char} {rest filled : Text}
      (no_place : ∀ key, (value? key).isSome = true → ¬ placeholder key <+: c :: rest)
      (others : Filled value? rest filled) : Filled value? (c :: rest) (c :: filled)

/-- When the turn of a later value comes, the text has its placeholder where the message has it, and
nowhere if an earlier value has filled it. -/
def Undisturbed (message : Text) : (earlier later : List (Text × Text)) → Prop
  | _, [] => True
  | earlier, (key, value) :: later =>
      places key (interpolateFrom message earlier) =
          (if (valueIn earlier key).isSome then 0 else places key message) ∧
        Undisturbed message (earlier ++ [(key, value)]) later

instance decidableUndisturbed (message : Text) :
    (earlier later : List (Text × Text)) → Decidable (Undisturbed message earlier later)
  | _, [] => isTrue trivial
  | earlier, (key, value) :: later =>
      have := decidableUndisturbed message (earlier ++ [(key, value)]) later
      inferInstanceAs (Decidable (_ ∧ _))

section Placeholders

variable {key other front rest more : Text}

theorem eq_of_placeholder_append (plain : IsPlain key) (plain' : IsPlain other)
    (same : placeholder key ++ rest = placeholder other ++ more) : key = other ∧ rest = more := by
  have inner : key ++ '\x7d' :: rest = other ++ '\x7d' :: more := by
    simpa [placeholder] using same
  rcases List.append_eq_append_iff.1 inner with ⟨between, rfl, behind⟩ | ⟨between, rfl, behind⟩
  · cases between with
    | nil => exact ⟨by simp, by simpa using behind⟩
    | cons c between =>
      obtain ⟨rfl, -⟩ := List.cons.inj behind
      exact absurd (by simp) plain'.2
  · cases between with
    | nil => exact ⟨by simp, by simpa using behind.symm⟩
    | cons c between =>
      obtain ⟨rfl, -⟩ := List.cons.inj behind
      exact absurd (by simp) plain.2

theorem eq_of_begins (plain : IsPlain key) (plain' : IsPlain other)
    (begins : placeholder key <+: placeholder other ++ rest) : key = other := by
  obtain ⟨more, same⟩ := begins
  exact (eq_of_placeholder_append plain plain' same).1

theorem not_begins_of_ne {c : Char} (other : c ≠ '\x7b') (key rest : Text) :
    ¬ placeholder key <+: c :: rest := by
  intro begins
  exact other (List.cons_prefix_cons.1 begins).1.symm

theorem places_cons (key : Text) (c : Char) (rest : Text) :
    places key (c :: rest) = (if placeholder key <+: c :: rest then 1 else 0) + places key rest := by
  simp only [places, Text.hasBeginning_iff]

theorem places_cons_of_not_begins {c : Char} (other : ¬ placeholder key <+: c :: rest) :
    places key (c :: rest) = places key rest := by
  rw [places_cons, if_neg other, Nat.zero_add]

theorem places_le_append (key front rest : Text) : places key rest ≤ places key (front ++ rest) := by
  induction front with
  | nil => exact Nat.le_refl _
  | cons c front ih =>
    rw [List.cons_append, places_cons]
    omega

theorem places_append_of_unopened (unopened : '\x7b' ∉ front) (key rest : Text) :
    places key (front ++ rest) = places key rest := by
  induction front with
  | nil => rfl
  | cons c front ih =>
    obtain ⟨first, others⟩ := List.ne_and_not_mem_of_not_mem_cons unopened
    rw [List.cons_append, places_cons_of_not_begins (not_begins_of_ne (Ne.symm first) key _),
      ih others]

theorem unopened_inner (plain : IsPlain key) : '\x7b' ∉ key ++ ['\x7d'] := by
  simp [plain.1]

theorem places_placeholder_of_ne (plain : IsPlain key) (plain' : IsPlain other) (ne : key ≠ other)
    (rest : Text) : places key (placeholder other ++ rest) = places key rest := by
  have other_first : ¬ placeholder key <+: '\x7b' :: (other ++ ['\x7d'] ++ rest) :=
    fun begins => ne (eq_of_begins plain plain' begins)
  calc places key (placeholder other ++ rest)
      = places key (other ++ ['\x7d'] ++ rest) := places_cons_of_not_begins other_first
    _ = places key rest := places_append_of_unopened (unopened_inner plain') key rest

end Placeholders

section Replacing

variable {key value front rest text : Text}

theorem replace_placeholder (key value rest : Text) :
    Text.replace (placeholder key) value (placeholder key ++ rest) =
      value ++ Text.replace (placeholder key) value rest := by
  have begins : Text.hasBeginning (placeholder key) (placeholder key ++ rest) = true :=
    Text.hasBeginning_iff.2 (List.prefix_append ..)
  have skipped : (key ++ ['\x7d'] ++ rest).drop ((placeholder key).length - 1) = rest :=
    List.drop_left' (by simp [placeholder])
  have found : Text.replaceFrom (placeholder key) value 0 (placeholder key ++ rest) =
      value ++ Text.replaceFrom (placeholder key) value ((placeholder key).length - 1)
        (key ++ ['\x7d'] ++ rest) := if_pos begins
  rw [Text.replace, found, Text.replaceFrom_skip, skipped, Text.replace]

theorem replace_cons_of_not_begins {c : Char} (other : ¬ placeholder key <+: c :: rest) :
    Text.replace (placeholder key) value (c :: rest) =
      c :: Text.replace (placeholder key) value rest := by
  rw [Text.replace, Text.replaceFrom, if_neg (mt Text.hasBeginning_iff.1 other), Text.replace]

theorem replace_append (free : places key (front ++ rest) = places key rest) :
    Text.replace (placeholder key) value (front ++ rest) =
      front ++ Text.replace (placeholder key) value rest := by
  induction front with
  | nil => rfl
  | cons c front ih =>
    have more := places_le_append key front rest
    rw [List.cons_append, places_cons] at free
    have other : ¬ placeholder key <+: c :: (front ++ rest) := by
      intro begins
      rw [if_pos begins] at free
      omega
    rw [if_neg other, Nat.zero_add] at free
    rw [List.cons_append, replace_cons_of_not_begins other, ih free, List.cons_append]

end Replacing

section Filling

variable {value? : Text → Option Text} {key front rest message text : Text}

theorem Filled.unfilled (empty : ∀ key, value? key = none) (message : Text) :
    Filled value? message message := by
  induction message with
  | nil => exact .nothing
  | cons c rest ih => exact .verbatim (fun key held => by simp [empty] at held) ih

theorem Filled.unopened {filled : Text} (unopened : '\x7b' ∉ front)
    (others : Filled value? rest filled) : Filled value? (front ++ rest) (front ++ filled) := by
  induction front with
  | nil => exact others
  | cons c front ih =>
    obtain ⟨first, inner⟩ := List.ne_and_not_mem_of_not_mem_cons unopened
    exact .verbatim (fun key _ => not_begins_of_ne (Ne.symm first) key _) (ih inner)

theorem Filled.of_unopened (filled : Filled value? (front ++ rest) text) (unopened : '\x7b' ∉ front) :
    ∃ after, text = front ++ after ∧ Filled value? rest after := by
  induction front generalizing text with
  | nil => exact ⟨text, rfl, filled⟩
  | cons c front ih =>
    obtain ⟨first, others⟩ := List.ne_and_not_mem_of_not_mem_cons unopened
    generalize whole : c :: front ++ rest = message at filled
    cases filled with
    | nothing => cases whole
    | value held inner => exact absurd (List.cons.inj whole).1.symm first
    | verbatim _ inner =>
      obtain ⟨rfl, rfl⟩ := List.cons.inj whole
      obtain ⟨after, rfl, filled⟩ := ih inner others
      exact ⟨after, rfl, filled⟩

theorem Filled.of_placeholder (plain : ∀ key, (value? key).isSome = true → IsPlain key)
    (plain' : IsPlain key) (open_place : value? key = none)
    (filled : Filled value? (placeholder key ++ rest) text) :
    ∃ after, text = placeholder key ++ after ∧ Filled value? rest after := by
  generalize whole : placeholder key ++ rest = message at filled
  cases filled with
  | nothing => cases whole
  | @value other value _ _ held inner =>
    have other_plain := plain other (by rw [held]; rfl)
    obtain ⟨rfl, -⟩ := eq_of_placeholder_append plain' other_plain whole
    cases open_place.symm.trans held
  | verbatim _ inner =>
    rw [placeholder, List.cons_append] at whole
    obtain ⟨rfl, rfl⟩ := List.cons.inj whole
    obtain ⟨after, rfl, filled⟩ := inner.of_unopened (unopened_inner plain')
    exact ⟨after, rfl, filled⟩

theorem Filled.unique (plain : ∀ key, (value? key).isSome = true → IsPlain key) {text' : Text}
    (filled : Filled value? message text) (filled' : Filled value? message text') : text = text' := by
  induction filled generalizing text' with
  | nothing =>
    generalize whole : ([] : Text) = message at filled'
    cases filled' with
    | nothing => rfl
    | value => cases whole
    | verbatim => cases whole
  | @value key value rest filled held others ih =>
    have key_plain := plain key (by rw [held]; rfl)
    generalize whole : placeholder key ++ rest = message at filled'
    cases filled' with
    | nothing => cases whole
    | @value key' _ _ _ held' others' =>
      obtain ⟨rfl, rfl⟩ :=
        eq_of_placeholder_append key_plain (plain key' (by rw [held']; rfl)) whole
      obtain rfl := Option.some.inj (held.symm.trans held')
      rw [ih others']
    | verbatim no_place _ =>
      exact absurd ⟨rest, whole⟩ (no_place key (by rw [held]; rfl))
  | @verbatim c rest filled no_place others ih =>
    generalize whole : c :: rest = message at filled'
    cases filled' with
    | nothing => cases whole
    | @value key _ more _ held' _ =>
      exact absurd ⟨more, whole.symm⟩ (no_place key (by rw [held']; rfl))
    | verbatim _ others' =>
      obtain ⟨rfl, rfl⟩ := List.cons.inj whole
      rw [ih others']

end Filling

section NextValue

def openPlaces (value? : Text → Option Text) (key message : Text) : Nat :=
  if (value? key).isSome then 0 else places key message

variable {value? : Text → Option Text} {key rest message text : Text}

theorem openPlaces_placeholder {other : Text} (plain : IsPlain key) (plain' : IsPlain other)
    (held : (value? other).isSome = true) (rest : Text) :
    openPlaces value? key (placeholder other ++ rest) = openPlaces value? key rest := by
  unfold openPlaces
  by_cases same : key = other
  · rw [same, if_pos held, if_pos held]
  · rw [places_placeholder_of_ne plain plain' same]

theorem openPlaces_cons {c : Char}
    (no_place : ∀ key, (value? key).isSome = true → ¬ placeholder key <+: c :: rest) :
    openPlaces value? key (c :: rest) =
      (if placeholder key <+: c :: rest then 1 else 0) + openPlaces value? key rest := by
  unfold openPlaces
  by_cases held : (value? key).isSome = true
  · rw [if_pos held, if_pos held, if_neg (no_place key held)]
  · rw [if_neg held, if_neg held, places_cons]

variable (plain : ∀ key, (value? key).isSome = true → IsPlain key) (plain' : IsPlain key)

include plain plain'

theorem Filled.openPlaces_le (filled : Filled value? message text) :
    openPlaces value? key message ≤ places key text := by
  induction filled with
  | nothing => simp [openPlaces, places]
  | @value other value rest filled held others ih =>
    have present : (value? other).isSome = true := by rw [held]; rfl
    rw [openPlaces_placeholder plain' (plain other present) present]
    exact Nat.le_trans ih (places_le_append ..)
  | @verbatim c rest filled no_place others ih =>
    rw [openPlaces_cons no_place, places_cons]
    by_cases begins : placeholder key <+: c :: rest
    · have open_place : value? key = none := by
        rw [← Option.not_isSome_iff_eq_none]
        exact fun held => no_place key held begins
      obtain ⟨more, whole⟩ := id begins
      have around : Filled value? (placeholder key ++ more) (c :: filled) := by
        rw [whole]
        exact .verbatim no_place others
      obtain ⟨after, same, -⟩ := around.of_placeholder plain plain' open_place
      have here : placeholder key <+: c :: filled := ⟨after, same.symm⟩
      rw [if_pos begins, if_pos here]
      omega
    · rw [if_neg begins]
      omega

omit plain in
theorem Filled.of_inner {value rest after : Text}
    (inside : Filled value? (key ++ ['\x7d'] ++ rest)
      (Text.replace (placeholder key) value (key ++ ['\x7d'] ++ after))) :
    Filled value? rest (Text.replace (placeholder key) value after) := by
  have kept : places key (key ++ ['\x7d'] ++ after) = places key after :=
    places_append_of_unopened (unopened_inner plain') key after
  rw [replace_append kept] at inside
  obtain ⟨behind, split, filled⟩ := inside.of_unopened (unopened_inner plain')
  obtain rfl := List.append_cancel_left split
  exact filled

theorem Filled.replace {value : Text} {value?' : Text → Option Text}
    (extends_to : ∀ other, value?' other = (value? other).or (if other = key then some value else none))
    (filled : Filled value? message text) (undisturbed : places key text = openPlaces value? key message) :
    Filled value?' message (Text.replace (placeholder key) value text) := by
  induction filled with
  | nothing => exact .nothing
  | @value other held_value rest filled held others ih =>
    have present : (value? other).isSome = true := by rw [held]; rfl
    rw [openPlaces_placeholder plain' (plain other present) present] at undisturbed
    have least := others.openPlaces_le plain plain'
    have more := places_le_append key held_value filled
    rw [replace_append (by omega)]
    exact .value (by rw [extends_to, held]; rfl) (ih (by omega))
  | @verbatim c rest filled no_place others ih =>
    have whole_filled : Filled value? (c :: rest) (c :: filled) := .verbatim no_place others
    have least := others.openPlaces_le plain plain'
    rw [openPlaces_cons no_place, places_cons] at undisturbed
    by_cases begins : placeholder key <+: c :: rest
    · have open_place : value? key = none := by
        rw [← Option.not_isSome_iff_eq_none]
        exact fun held => no_place key held begins
      obtain ⟨more, whole⟩ := begins
      rw [← whole] at whole_filled
      obtain ⟨after, same, -⟩ := whole_filled.of_placeholder plain plain' open_place
      have here : placeholder key <+: c :: filled := ⟨after, same.symm⟩
      rw [if_pos here, if_pos ⟨more, whole⟩] at undisturbed
      -- the message behind the brace has been filled; the placeholder's own end is still in front of it
      have inside := ih (by omega)
      obtain ⟨rfl, rfl⟩ := List.cons.inj whole
      obtain ⟨-, rfl⟩ := List.cons.inj same
      change Filled value?' (placeholder key ++ more)
        (Text.replace (placeholder key) value (placeholder key ++ after))
      rw [replace_placeholder]
      exact .value (by rw [extends_to, open_place, if_pos rfl]; rfl) (inside.of_inner plain')
    · rw [if_neg begins] at undisturbed
      have other : ¬ placeholder key <+: c :: filled := by
        intro here
        rw [if_pos here] at undisturbed
        omega
      rw [if_neg other] at undisturbed
      rw [replace_cons_of_not_begins other]
      refine .verbatim (fun other held => ?_) (ih (by omega))
      rw [extends_to] at held
      by_cases same : other = key
      · rwa [same]
      · rw [if_neg same, Option.or_none] at held
        exact no_place other held

end NextValue

section Interpolating

variable {message text : Text} {earlier later : List (Text × Text)}

theorem isPlain_of_valueIn {context : List (Text × Text)}
    (plain : ∀ entry ∈ context, IsPlain entry.1) {key : Text}
    (held : (valueIn context key).isSome = true) : IsPlain key := by
  obtain ⟨value, held⟩ := Option.isSome_iff_exists.1 held
  obtain ⟨entry, found, -⟩ := Option.map_eq_some_iff.1 held
  have same : entry.1 = key := by simpa using List.find?_some found
  exact same ▸ plain entry (List.mem_of_find?_eq_some found)

theorem valueIn_append_singleton (context : List (Text × Text)) (key value other : Text) :
    valueIn (context ++ [(key, value)]) other =
      (valueIn context other).or (if other = key then some value else none) := by
  rw [valueIn, List.find?_append, Option.map_or, ← valueIn]
  by_cases same : other = key
  · simp [same]
  · simp [same, Ne.symm same]

theorem filled_interpolateFrom (plain : ∀ entry ∈ earlier ++ later, IsPlain entry.1)
    (filled : Filled (valueIn earlier) message (interpolateFrom message earlier))
    (undisturbed : Undisturbed message earlier later) :
    Filled (valueIn (earlier ++ later)) message (interpolateFrom message (earlier ++ later)) := by
  induction later generalizing earlier with
  | nil => simpa using filled
  | cons entry later ih =>
    obtain ⟨key, value⟩ := entry
    obtain ⟨here, others⟩ := undisturbed
    have plain_earlier (entry : Text × Text) (mem : entry ∈ earlier) : IsPlain entry.1 :=
      plain entry (List.mem_append_left _ mem)
    have plain_key : IsPlain key :=
      plain (key, value) (List.mem_append_right _ (List.mem_cons_self ..))
    have next : interpolateFrom message (earlier ++ [(key, value)]) =
        Text.replace (placeholder key) value (interpolateFrom message earlier) := by
      simp [interpolateFrom]
    have filled_next := filled.replace (fun _ => isPlain_of_valueIn plain_earlier) plain_key
      (valueIn_append_singleton earlier key value) here
    rw [← next] at filled_next
    have split : earlier ++ (key, value) :: later = (earlier ++ [(key, value)]) ++ later := by simp
    rw [split] at plain ⊢
    exact ih plain filled_next others

/-- An interpolated message is the message filled, each placeholder with the first value of its key,
where no value put in makes a place for a later one. -/
theorem interpolate_eq_iff_filled {record : LogRecord}
    (plain : ∀ entry ∈ record.context, IsPlain entry.1)
    (undisturbed : Undisturbed record.message [] record.context) (text : Text) :
    record.interpolate = text ↔ Filled record.get? record.message text := by
  have start : Filled (valueIn []) record.message (interpolateFrom record.message []) :=
    .unfilled (fun _ => rfl) record.message
  have filled : Filled (valueIn ([] ++ record.context)) record.message
      (interpolateFrom record.message ([] ++ record.context)) :=
    filled_interpolateFrom plain start undisturbed
  change Filled record.get? record.message record.interpolate at filled
  constructor
  · rintro rfl
    exact filled
  · exact filled.unique fun _ => isPlain_of_valueIn plain

def unreadRecord (path : Text) : LogRecord := Harvester.skipRecord path (.unreadableFile path)

theorem interpolate_eq_iff_filled_braces :
    (∀ entry ∈ (unreadRecord "\x7bid\x7d.js".toList).context, IsPlain entry.1) ∧
      Undisturbed (unreadRecord "\x7bid\x7d.js".toList).message []
        (unreadRecord "\x7bid\x7d.js".toList).context ∧
      Filled (unreadRecord "\x7bid\x7d.js".toList).get? "Skipping \x7bfile\x7d: \x7bmessage\x7d".toList
        "Skipping \x7bid\x7d.js: Failed to read file: \x7bid\x7d.js".toList := by
  have plain : ∀ entry ∈ (unreadRecord "\x7bid\x7d.js".toList).context, IsPlain entry.1 := by
    decide
  have undisturbed : Undisturbed (unreadRecord "\x7bid\x7d.js".toList).message []
      (unreadRecord "\x7bid\x7d.js".toList).context := by
    decide
  exact ⟨plain, undisturbed, (interpolate_eq_iff_filled plain undisturbed _).1 (by decide)⟩

/-- The file has the name of a placeholder whose value is put in after its own. -/
def placeholderRecord : LogRecord := unreadRecord "\x7bmessage\x7d.js".toList

theorem not_interpolate_filled : ¬ ∀ record : LogRecord,
    (∀ entry ∈ record.context, IsPlain entry.1) →
      Filled record.get? record.message record.interpolate := by
  intro all
  have plain : ∀ entry ∈ placeholderRecord.context, IsPlain entry.1 := by decide
  have filled := all placeholderRecord plain
  have error : Filled placeholderRecord.get? (placeholder "message".toList)
      "Failed to read file: \x7bmessage\x7d.js".toList :=
    @Filled.value placeholderRecord.get? "message".toList _ [] [] rfl .nothing
  have file : Filled placeholderRecord.get? "\x7bfile\x7d: \x7bmessage\x7d".toList
      "\x7bmessage\x7d.js: Failed to read file: \x7bmessage\x7d.js".toList :=
    @Filled.value placeholderRecord.get? "file".toList _ _ _ rfl
      (@Filled.unopened placeholderRecord.get? ": ".toList _ _ (by decide) error)
  have once : Filled placeholderRecord.get? placeholderRecord.message
      "Skipping \x7bmessage\x7d.js: Failed to read file: \x7bmessage\x7d.js".toList :=
    @Filled.unopened placeholderRecord.get? "Skipping ".toList _ _ (by decide) file
  exact absurd (filled.unique (fun _ => isPlain_of_valueIn plain) once) (by decide)

end Interpolating

end LogRecord

end MessageHarvest
