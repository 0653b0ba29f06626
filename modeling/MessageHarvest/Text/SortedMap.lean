import MessageHarvest.Text.Basic

namespace MessageHarvest

def KeysAscend {α : Type} (entries : List (Text × α)) : Prop :=
  entries.Pairwise (fun a b => Text.before a.1 b.1 = true)

structure SortedMap (α : Type) where
  entries : List (Text × α)
  ascending : KeysAscend entries

namespace SortedMap

variable {α β : Type}

def place (key : Text) (value : α) : List (Text × α) → List (Text × α)
  | [] => [(key, value)]
  | (other, held) :: rest =>
      if key = other then (key, value) :: rest
      else if Text.before key other then (key, value) :: (other, held) :: rest
      else (other, held) :: place key value rest

def lookUp (key : Text) : List (Text × α) → Option α
  | [] => none
  | (other, held) :: rest => if key = other then some held else lookUp key rest

theorem mem_place {key : Text} {value : α} {entry : Text × α} {entries : List (Text × α)}
    (h : entry ∈ place key value entries) : entry = (key, value) ∨ entry ∈ entries := by
  induction entries with
  | nil =>
    simp [place] at h
    exact .inl h
  | cons head rest ih =>
    obtain ⟨other, held⟩ := head
    simp only [place] at h
    split at h
    · rcases List.mem_cons.1 h with h | h
      · exact .inl h
      · exact .inr (List.mem_cons_of_mem _ h)
    · split at h
      · rcases List.mem_cons.1 h with h | h
        · exact .inl h
        · exact .inr h
      · rcases List.mem_cons.1 h with h | h
        · exact .inr (h ▸ List.mem_cons_self ..)
        · exact (ih h).elim .inl (fun m => .inr (List.mem_cons_of_mem _ m))

theorem keysAscend_place {key : Text} {value : α} {entries : List (Text × α)}
    (h : KeysAscend entries) : KeysAscend (place key value entries) := by
  induction entries with
  | nil => simp [place, KeysAscend]
  | cons head rest ih =>
    obtain ⟨other, held⟩ := head
    have tail : KeysAscend rest := (List.pairwise_cons.1 h).2
    have first := (List.pairwise_cons.1 h).1
    simp only [place]
    split
    · rename_i same
      subst same
      exact List.pairwise_cons.2 ⟨first, tail⟩
    · split
      · rename_i smaller
        refine List.pairwise_cons.2 ⟨?_, h⟩
        intro entry m
        rcases List.mem_cons.1 m with m | m
        · rw [m]
          exact smaller
        · exact Text.before_trans smaller (first entry m)
      · rename_i different larger
        refine List.pairwise_cons.2 ⟨?_, ih tail⟩
        intro entry m
        rcases mem_place m with m | m
        · rw [m]
          cases hb : Text.before other key with
          | true => rfl
          | false =>
            exact absurd (Text.before_total (by simpa using larger) hb) different
        · exact first entry m

theorem lookUp_place_self (key : Text) (value : α) (entries : List (Text × α)) :
    lookUp key (place key value entries) = some value := by
  induction entries with
  | nil => simp [place, lookUp]
  | cons head rest ih =>
    obtain ⟨other, held⟩ := head
    simp only [place]
    split
    · simp [lookUp]
    · split
      · simp [lookUp]
      · rename_i different _
        simp [lookUp, different, ih]

theorem lookUp_place_of_ne {key other : Text} (value : α) (entries : List (Text × α))
    (h : other ≠ key) : lookUp other (place key value entries) = lookUp other entries := by
  induction entries with
  | nil => simp [place, lookUp, h]
  | cons head rest ih =>
    obtain ⟨first, held⟩ := head
    simp only [place]
    split
    · rename_i same
      subst same
      simp [lookUp, h]
    · split
      · simp [lookUp, h]
      · by_cases e : other = first
        · simp [lookUp, e]
        · simp [lookUp, e, ih]

def empty : SortedMap α := ⟨[], List.Pairwise.nil⟩

instance : EmptyCollection (SortedMap α) := ⟨empty⟩

instance : Inhabited (SortedMap α) := ⟨empty⟩

def get? (map : SortedMap α) (key : Text) : Option α := lookUp key map.entries

def insert (map : SortedMap α) (key : Text) (value : α) : SortedMap α :=
  ⟨place key value map.entries, keysAscend_place map.ascending⟩

def alter (map : SortedMap α) (key : Text) (change : Option α → α) : SortedMap α :=
  map.insert key (change (map.get? key))

def keys (map : SortedMap α) : List Text := map.entries.map (·.1)

def size (map : SortedMap α) : Nat := map.entries.length

def isEmpty (map : SortedMap α) : Bool := map.entries.isEmpty

/-- Of several values for a key the last one stays. -/
def ofList (entries : List (Text × α)) : SortedMap α :=
  entries.foldl (fun map entry => map.insert entry.1 entry.2) empty

theorem get?_insert_self (map : SortedMap α) (key : Text) (value : α) :
    (map.insert key value).get? key = some value :=
  lookUp_place_self key value map.entries

theorem get?_insert_of_ne (map : SortedMap α) {key other : Text} (value : α) (h : other ≠ key) :
    (map.insert key value).get? other = map.get? other :=
  lookUp_place_of_ne value map.entries h

theorem get?_alter (map : SortedMap α) (key other : Text) (change : Option α → α) :
    (map.alter key change).get? other =
      if other = key then some (change (map.get? key)) else map.get? other := by
  by_cases h : other = key
  · simp [alter, h, get?_insert_self]
  · simp [alter, h, get?_insert_of_ne]

instance [DecidableEq α] : DecidableEq (SortedMap α) := fun a b =>
  if h : a.entries = b.entries then
    isTrue (by cases a; cases b; simp_all)
  else isFalse (fun e => h (e ▸ rfl))

end SortedMap

end MessageHarvest
