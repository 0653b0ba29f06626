import MessageHarvest.Proofs.Call.Grammar

namespace MessageHarvest.Call

structure Interval where
  start : Nat
  stop : Nat
  found : Found
  deriving Repr, DecidableEq

def locateFrom (config : Config) : (position skip : Nat) → Text → List Interval
  | _, _, [] => []
  | position, skip + 1, _ :: rest => locateFrom config (position + 1) skip rest
  | position, 0, c :: rest =>
      match call? (alternatives config.translatorObjects) (alternatives config.translatorMethods)
        (c :: rest) with
      | some (found, after) =>
          ⟨position, position + (rest.length + 1 - after.length), found⟩ ::
            locateFrom config (position + 1) (rest.length - after.length) rest
      | none => locateFrom config (position + 1) 0 rest

def Interval.Holds (config : Config) (source : Text) (interval : Interval) : Prop :=
  ∃ call after, CallText config interval.found call ∧ source.drop interval.start = call ++ after ∧
    interval.stop = interval.start + call.length

variable {config : Config} {source text : Text} {position skip : Nat}

theorem found_locateFrom (config : Config) (position skip : Nat) (text : Text) :
    (locateFrom config position skip text).map Interval.found =
      scanFrom (alternatives config.translatorObjects) (alternatives config.translatorMethods) skip
        text := by
  fun_induction locateFrom config position skip text with
  | case1 => simp [scanFrom]
  | case2 position skip c rest ih => rw [scanFrom, ih]
  | case3 position c rest found after matched ih =>
    rw [scanFrom, matched, List.map_cons, ih]
  | case4 position c rest none ih => rw [scanFrom, none, ih]

theorem drop_of_cons {c : Char} {rest : Text} (here : source.drop position = c :: rest) :
    source.drop (position + 1) = rest := by
  rw [← List.tail_drop, here, List.tail_cons]

theorem length_of_call? (valid : config.Valid) {c : Char} {rest after : Text} {found : Found}
    (matched : call? (alternatives config.translatorObjects) (alternatives config.translatorMethods)
      (c :: rest) = some (found, after)) : after.length ≤ rest.length := by
  obtain ⟨call, held, whole⟩ := call?_sound valid matched
  have pos := held.pos
  have lengths := congrArg List.length whole
  rw [List.length_cons, List.length_append] at lengths
  omega

theorem mem_locateFrom (valid : config.Valid) (here : source.drop position = text)
    {interval : Interval} (mem : interval ∈ locateFrom config position skip text) :
    position + skip ≤ interval.start ∧ interval.Holds config source := by
  fun_induction locateFrom config position skip text with
  | case1 => cases mem
  | case2 position skip c rest ih =>
    obtain ⟨least, holds⟩ := ih (drop_of_cons here) mem
    exact ⟨by omega, holds⟩
  | case3 position c rest found after matched ih =>
    rcases List.mem_cons.1 mem with rfl | mem
    · obtain ⟨call, held, whole⟩ := call?_sound valid matched
      have lengths := congrArg List.length whole
      rw [List.length_cons, List.length_append] at lengths
      refine ⟨Nat.le_refl position, call, after, held, here.trans whole, ?_⟩
      dsimp only
      omega
    · obtain ⟨least, holds⟩ := ih (drop_of_cons here) mem
      exact ⟨by omega, holds⟩
  | case4 position c rest none ih =>
    obtain ⟨least, holds⟩ := ih (drop_of_cons here) mem
    exact ⟨by omega, holds⟩

theorem locateFrom_disjoint (valid : config.Valid) (here : source.drop position = text) :
    (locateFrom config position skip text).Pairwise fun a b => a.stop ≤ b.start := by
  fun_induction locateFrom config position skip text with
  | case1 => exact .nil
  | case2 position skip c rest ih => exact ih (drop_of_cons here)
  | case3 position c rest found after matched ih =>
    refine .cons (fun interval mem => ?_) (ih (drop_of_cons here))
    have shorter := length_of_call? valid matched
    have least := (mem_locateFrom valid (drop_of_cons here) mem).1
    dsimp only
    omega
  | case4 position c rest none ih => exact ih (drop_of_cons here)

theorem locateFrom_covers (valid : config.Valid) (here : source.drop position = text) {place : Nat}
    (later : position + skip ≤ place) {found : Found} {after : Text}
    (matched : call? (alternatives config.translatorObjects) (alternatives config.translatorMethods)
      (source.drop place) = some (found, after)) :
    ∃ interval ∈ locateFrom config position skip text,
      interval.start ≤ place ∧ place < interval.stop := by
  fun_induction locateFrom config position skip text with
  | case1 position skip =>
    obtain ⟨call, held, whole⟩ := call?_sound valid matched
    have pos := held.pos
    have short := congrArg List.length here
    have lengths := congrArg List.length whole
    rw [List.length_drop, List.length_nil] at short
    rw [List.length_drop, List.length_append] at lengths
    omega
  | case2 position skip c rest ih => exact ih (drop_of_cons here) (by omega)
  | case3 position c rest found' after' matched' ih =>
    have shorter := length_of_call? valid matched'
    by_cases inside : place < position + (rest.length + 1 - after'.length)
    · exact ⟨_, List.mem_cons_self .., later, inside⟩
    · obtain ⟨interval, mem, covers⟩ := ih (drop_of_cons here) (by omega)
      exact ⟨interval, List.mem_cons_of_mem _ mem, covers⟩
  | case4 position c rest none ih =>
    -- no call is found here, so the place lies further on
    have other : place ≠ position := by
      rintro rfl
      rw [here, none] at matched
      cases matched
    exact ih (drop_of_cons here) (by omega)

theorem Interval.Holds.extract {interval : Interval} (h : interval.Holds config source) :
    interval.start < interval.stop ∧ interval.stop ≤ source.length ∧
      CallText config interval.found (source.extract interval.start interval.stop) := by
  obtain ⟨call, after, held, whole, stop⟩ := h
  have pos := held.pos
  have lengths := congrArg List.length whole
  rw [List.length_drop, List.length_append] at lengths
  have taken : source.extract interval.start interval.stop = call := by
    rw [List.extract_eq_take_drop, whole, stop, Nat.add_sub_cancel_left, List.take_left]
  rw [taken]
  exact ⟨by omega, by omega, held⟩

/-- The records are those of disjoint intervals in their order, each of which holds a call; no call of
the grammar is without a common part with one of them. -/
theorem records_intervals (valid : config.Valid) (source file : Text) :
    ∃ intervals : List Interval,
      intervals.Pairwise (fun a b => a.stop ≤ b.start) ∧
      (∀ interval ∈ intervals, interval.start < interval.stop ∧ interval.stop ≤ source.length ∧
        CallText config interval.found (source.extract interval.start interval.stop)) ∧
      records config source file = intervals.map (fun interval => {
        message := unescape interval.found.message
        domain := match interval.found.domain with
          | some body => unescape body
          | none => config.defaultDomain
        file := file
        line := none }) ∧
      ∀ start stop found, CallText config found (source.extract start stop) →
        ∃ interval ∈ intervals, interval.start < stop ∧ start < interval.stop := by
  have here : source.drop 0 = source := List.drop_zero
  refine ⟨locateFrom config 0 0 source, locateFrom_disjoint valid here, ?_, ?_, ?_⟩
  · intro interval mem
    exact (mem_locateFrom valid here mem).2.extract
  · rw [records, scan, ← found_locateFrom config 0, List.map_map]
    refine List.map_congr_left fun interval _ => ?_
    obtain ⟨start, stop, message, domain⟩ := interval
    cases domain <;> rfl
  · -- a match begins where the call does, wherever it ends
    intro start stop found held
    have whole : source.drop start =
        source.extract start stop ++ (source.drop start).drop (stop - start) := by
      rw [List.extract_eq_take_drop, List.take_append_drop]
    have complete := call?_complete valid held ((source.drop start).drop (stop - start))
    rw [← whole] at complete
    obtain ⟨⟨found', after⟩, matched⟩ := Option.isSome_iff_exists.1 complete
    have least : 0 + 0 ≤ start := Nat.zero_le start
    obtain ⟨interval, mem, first, last⟩ := locateFrom_covers valid here least matched
    have pos := held.pos
    rw [List.extract_eq_take_drop, List.length_take] at pos
    exact ⟨interval, mem, by omega, last⟩

theorem records_intervals_broken :
    let source := "(Translator.trans('a\\'', 5, p, ',\")')Translator.trans('b', 'c')".toList
    (default : Config).Valid ∧
      records default source [] = [⟨"a'".toList, ",\")".toList, [], none⟩] ∧
      ∃ intervals : List Interval,
        intervals.Pairwise (fun a b => a.stop ≤ b.start) ∧ intervals.length = 1 ∧
        (∀ interval ∈ intervals, interval.start < interval.stop ∧
          interval.stop ≤ source.length ∧
          CallText default interval.found (source.extract interval.start interval.stop)) ∧
        ∀ start stop found, CallText default found (source.extract start stop) →
          ∃ interval ∈ intervals, interval.start < stop ∧ start < interval.stop := by
  intro source
  have valid : (default : Config).Valid := by decide
  have found : records default source [] = [⟨"a'".toList, ",\")".toList, [], none⟩] := by
    decide +kernel
  obtain ⟨intervals, disjoint, held, same, complete⟩ := records_intervals valid source []
  have one : intervals.length = 1 := by
    rw [found] at same
    have lengths := congrArg List.length same
    rw [List.length_map] at lengths
    exact lengths.symm
  exact ⟨valid, found, intervals, disjoint, one, held, complete⟩

end MessageHarvest.Call
