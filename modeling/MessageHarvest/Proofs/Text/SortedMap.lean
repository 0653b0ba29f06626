import MessageHarvest.Text.SortedMap
import Mathlib.Algebra.Ring.Nat
import Mathlib.Data.List.Sort

namespace MessageHarvest.SortedMap

variable {α β : Type}

section Order

theorem lists_eq_of_mem {γ : Type} (key : γ → Text) {a b : List γ}
    (ascending : a.Pairwise fun x y => Text.before (key x) (key y) = true)
    (ascending' : b.Pairwise fun x y => Text.before (key x) (key y) = true)
    (same : ∀ x, x ∈ a ↔ x ∈ b) : a = b := by
  have irrefl : ∀ x, ¬ Text.before (key x) (key x) = true := by simp [Text.before_irrefl]
  let order : γ → γ → Prop := fun x y => Text.before (key x) (key y) = true
  have : Std.Irrefl order := ⟨irrefl⟩
  have : Std.Antisymm order := ⟨fun x y xy yx => absurd (Text.before_trans xy yx) (irrefl x)⟩
  exact List.Subset.antisymm_of_pairwise (r := order) ascending ascending' (fun x => (same x).1)
    (fun x => (same x).2)

theorem keys_ascending (map : SortedMap α) :
    map.keys.Pairwise fun a b => Text.before a b = true :=
  List.pairwise_map.2 map.ascending

theorem keys_eq_of_mem {a : SortedMap α} {b : SortedMap β}
    (same : ∀ key, key ∈ a.keys ↔ key ∈ b.keys) : a.keys = b.keys :=
  lists_eq_of_mem id a.keys_ascending b.keys_ascending same

end Order

section LookUp

theorem get?_eq_some_iff (map : SortedMap α) {key : Text} {value : α} :
    map.get? key = some value ↔ (key, value) ∈ map.entries := by
  obtain ⟨entries, ascending⟩ := map
  simp only [get?]
  induction entries with
  | nil => simp [lookUp]
  | cons head rest ih =>
    obtain ⟨other, held⟩ := head
    obtain ⟨first, tail⟩ := List.pairwise_cons.1 ascending
    by_cases same : key = other
    · subst same
      have alone : (key, value) ∉ rest := fun mem => by
        have := first _ mem
        simp [Text.before_irrefl] at this
      simp [lookUp, alone, eq_comm]
    · simpa [lookUp, same] using ih tail

theorem eq_of_entries {a b : SortedMap α} (same : a.entries = b.entries) : a = b := by
  cases a
  cases b
  simp_all

end LookUp

section OfList

theorem place_last {key : Text} {value : α} {entries : List (Text × α)}
    (last : ∀ entry ∈ entries, Text.before entry.1 key = true) :
    place key value entries = entries ++ [(key, value)] := by
  induction entries with
  | nil => rfl
  | cons head rest ih =>
    obtain ⟨other, held⟩ := head
    obtain ⟨smaller, later⟩ := List.forall_mem_cons.1 last
    have different : key ≠ other := by
      rintro rfl
      simp [Text.before_irrefl] at smaller
    have larger : Text.before key other = false := by
      rw [Bool.eq_false_iff]
      intro larger
      simpa [Text.before_irrefl] using Text.before_trans smaller larger
    simp [place, different, larger, ih later]

theorem entries_foldl_insert (map : SortedMap α) {entries : List (Text × α)}
    (ascending : KeysAscend (map.entries ++ entries)) :
    (entries.foldl (fun map entry => map.insert entry.1 entry.2) map).entries =
      map.entries ++ entries := by
  induction entries generalizing map with
  | nil => simp
  | cons head rest ih =>
    obtain ⟨-, -, before⟩ := List.pairwise_append.1 ascending
    have placed : (map.insert head.1 head.2).entries = map.entries ++ [head] :=
      place_last fun entry mem => before entry mem head (List.mem_cons_self ..)
    have ascending' : KeysAscend ((map.insert head.1 head.2).entries ++ rest) := by
      rwa [placed, List.append_assoc]
    rw [List.foldl_cons, ih _ ascending', placed, List.append_assoc, List.singleton_append]

theorem entries_ofList {entries : List (Text × α)} (ascending : KeysAscend entries) :
    (ofList entries).entries = entries :=
  entries_foldl_insert empty ascending

theorem ofList_entries (map : SortedMap α) : ofList map.entries = map :=
  eq_of_entries (entries_ofList map.ascending)

theorem mem_of_mem_ofList {entries : List (Text × α)} {entry : Text × α}
    (mem : entry ∈ (ofList entries).entries) : entry ∈ entries := by
  have gathered : ∀ (map : SortedMap α) (more : List (Text × α)),
      entry ∈ (more.foldl (fun map entry => map.insert entry.1 entry.2) map).entries →
        entry ∈ map.entries ∨ entry ∈ more := by
    intro map more
    induction more generalizing map with
    | nil => exact .inl
    | cons head rest ih =>
      intro mem
      rcases ih (map.insert head.1 head.2) mem with mem | mem
      · rcases mem_place mem with rfl | mem
        · exact .inr (List.mem_cons_self ..)
        · exact .inl mem
      · exact .inr (List.mem_cons_of_mem _ mem)
  exact (gathered empty entries mem).resolve_left List.not_mem_nil

end OfList

section Total

variable (weight : α → Nat)

def total (map : SortedMap α) : Nat := (map.entries.map fun entry => weight entry.2).sum

theorem lookUp_of_before {key : Text} {head : Text × α} {rest : List (Text × α)}
    (ascending : KeysAscend (head :: rest)) (smaller : Text.before key head.1 = true) :
    lookUp key (head :: rest) = none := by
  have absent : (SortedMap.mk _ ascending).get? key = none := by
    rw [Option.eq_none_iff_forall_ne_some]
    intro value found
    rcases List.mem_cons.1 ((get?_eq_some_iff _).1 found) with rfl | mem
    · simp [Text.before_irrefl] at smaller
    · have larger := (List.pairwise_cons.1 ascending).1 _ mem
      simpa [Text.before_irrefl] using Text.before_trans smaller larger
  exact absent

theorem sum_place {key : Text} (value : α) {entries : List (Text × α)}
    (ascending : KeysAscend entries) :
    ((place key value entries).map fun entry => weight entry.2).sum +
        (lookUp key entries).elim 0 weight =
      (entries.map fun entry => weight entry.2).sum + weight value := by
  induction entries with
  | nil => simp [place, lookUp]
  | cons head rest ih =>
    obtain ⟨other, held⟩ := head
    by_cases same : key = other
    · simp only [place, lookUp, if_pos same, List.map_cons, List.sum_cons, Option.elim_some]
      omega
    · cases smaller : Text.before key other with
      | true =>
        rw [lookUp_of_before ascending smaller]
        simp only [place, if_neg same, smaller, if_true, List.map_cons, List.sum_cons,
          Option.elim_none]
        omega
      | false =>
        have later := ih (List.pairwise_cons.1 ascending).2
        simp only [place, lookUp, if_neg same, smaller, Bool.false_eq_true, if_false, List.map_cons,
          List.sum_cons]
        omega

theorem total_alter (map : SortedMap α) (key : Text) (change : Option α → α) :
    (map.alter key change).total weight + (map.get? key).elim 0 weight =
      map.total weight + weight (change (map.get? key)) :=
  sum_place weight _ map.ascending

end Total

end MessageHarvest.SortedMap
