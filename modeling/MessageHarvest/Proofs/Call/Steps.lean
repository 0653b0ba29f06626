import MessageHarvest.Proofs.Call.Escape
import MessageHarvest.Proofs.Call.Grammar

/-!
The steps in which the body of a literal is decoded, against the units into which the grammar of
calls divides it: ordinary characters, and backslashes with the character behind them. A step reads
whole units, so that none begins between a backslash and its character.
-/

namespace MessageHarvest.Call

structure Step where
  read : Text
  written : Text
  deriving Repr, DecidableEq

/-- The steps of `unescapeFrom`. A step that meets a backslash with nothing behind it reads only the
backslash. -/
def stepsFrom : (fuel : Nat) → Text → List Step
  | 0, _ => []
  | _ + 1, [] => []
  | fuel + 1, '\\' :: rest =>
      match decodeEscape rest with
      | (decoded, after) =>
          ⟨'\\' :: rest.take (rest.length - after.length), decoded⟩ :: stepsFrom fuel after
  | fuel + 1, c :: rest => ⟨[c], [c]⟩ :: stepsFrom fuel rest

def steps (body : Text) : List Step := stepsFrom body.length body

inductive BodyUnit (delimiter : Char) : Text → Prop
  | plain {c : Char} (unquoted : c ≠ delimiter) (unescaped : c ≠ '\\') : BodyUnit delimiter [c]
  | pair (c : Char) : BodyUnit delimiter ['\\', c]

theorem BodyUnit.pos {delimiter : Char} {unit : Text} (h : BodyUnit delimiter unit) :
    0 < unit.length := by
  cases h <;> exact Nat.succ_pos _

def Found.bodies (found : Found) : List Text := found.message :: found.domain.toList

variable {delimiter c : Char} {taken after body rest : Text} {units : List Text}

section Division

def Divides (taken : Text) : Prop :=
  ∀ (delimiter : Char) (units : List Text) (after : Text),
    (∀ unit ∈ units, BodyUnit delimiter unit) → units.flatten = taken ++ after →
      ∃ front back : List Text, units = front ++ back ∧ front.flatten = taken ∧ back.flatten = after

theorem divides_nil : Divides [] :=
  fun _ units _ _ whole => ⟨[], units, rfl, rfl, whole⟩

theorem Divides.append {more : Text} (first : Divides taken) (second : Divides more) :
    Divides (taken ++ more) := by
  intro delimiter units after formed whole
  rw [List.append_assoc] at whole
  obtain ⟨front, back, rfl, rfl, behind⟩ := first delimiter units _ formed whole
  have formed' : ∀ unit ∈ back, BodyUnit delimiter unit :=
    fun unit mem => formed unit (List.mem_append_right _ mem)
  obtain ⟨front', back', rfl, rfl, rfl⟩ := second delimiter back after formed' behind
  exact ⟨front ++ front', back', by simp, by simp, rfl⟩

theorem divides_plain (unescaped : c ≠ '\\') : Divides [c] := by
  intro delimiter units after formed whole
  cases units with
  | nil => cases whole
  | cons unit units =>
    cases formed unit (List.mem_cons_self ..) with
    | plain =>
      obtain ⟨rfl, rfl⟩ := List.cons.inj whole
      exact ⟨[[_]], units, rfl, rfl, rfl⟩
    | pair => exact absurd (List.cons.inj whole).1.symm unescaped

theorem divides_pair (c : Char) : Divides ['\\', c] := by
  intro delimiter units after formed whole
  cases units with
  | nil => cases whole
  | cons unit units =>
    cases formed unit (List.mem_cons_self ..) with
    | plain unquoted unescaped => exact absurd (List.cons.inj whole).1 unescaped
    | pair d =>
      obtain ⟨rfl, rfl⟩ := List.cons.inj (List.cons.inj whole).2
      exact ⟨[['\\', d]], units, rfl, rfl, rfl⟩

theorem divides_of_unescaped (unescaped : '\\' ∉ taken) : Divides taken := by
  induction taken with
  | nil => exact divides_nil
  | cons c taken ih =>
    rw [List.mem_cons, not_or] at unescaped
    exact (divides_plain fun same => unescaped.1 same.symm).append (ih unescaped.2)

theorem divides_of_allHex {digits : Text} (hex : Text.AllHex digits) : Divides digits :=
  divides_of_unescaped fun mem => by cases hex _ mem

theorem UnicodeEscape.divides (escape : UnicodeEscape c after taken) : Divides taken := by
  cases escape with
  | braced some few hex =>
    have closed := (divides_of_allHex hex).append (divides_plain (by decide : '\x7d' ≠ '\\'))
    exact (divides_plain (by decide)).append closed
  | fourDigits four hex => exact divides_of_allHex hex
  | pair four hex four' hex' =>
    exact (divides_of_allHex hex).append ((divides_pair 'u').append (divides_of_allHex hex'))
  | unpaired four hex => exact divides_of_allHex hex

end Division

section Reading

variable (c : Char) (rest : Text)

theorem exists_orLetter (letter : Char) {read : Option (Char × Text)}
    (takes : ∀ c after, read = some (c, after) → ∃ taken, rest = taken ++ after ∧ Divides taken) :
    ∃ taken, rest = taken ++ (orLetter letter rest read).2 ∧ Divides taken ∧
      (orLetter letter rest read).1.length ≤ 1 := by
  cases read with
  | none => exact ⟨[], rfl, divides_nil, Nat.le_refl 1⟩
  | some found =>
    obtain ⟨taken, whole, divides⟩ := takes found.1 found.2 rfl
    exact ⟨taken, whole, divides, Nat.le_refl 1⟩

theorem exists_hexEscape : ∃ taken, rest = taken ++ (orLetter 'x' rest (hexEscape? rest)).2 ∧
    Divides taken ∧ (orLetter 'x' rest (hexEscape? rest)).1.length ≤ 1 := by
  refine exists_orLetter rest 'x' fun c after found => ?_
  obtain ⟨digits, whole, two, hex, -⟩ := hexEscape?_eq_some_iff.1 found
  exact ⟨digits, whole, divides_of_allHex hex⟩

theorem exists_unicodeEscape : ∃ taken,
    rest = taken ++ (orLetter 'u' rest (unicodeEscape? rest)).2 ∧ Divides taken ∧
      (orLetter 'u' rest (unicodeEscape? rest)).1.length ≤ 1 := by
  refine exists_orLetter rest 'u' fun c after found => ?_
  obtain ⟨taken, whole, escape⟩ := unicodeEscape?_eq_some_iff.1 found
  exact ⟨taken, whole, escape.divides⟩

theorem exists_decodeEscape :
    ∃ taken, rest = taken ++ (decodeEscape (c :: rest)).2 ∧ Divides taken ∧
      (decodeEscape (c :: rest)).1.length ≤ 1 := by
  unfold decodeEscape
  split
  case h_1 none => cases none
  case h_8 same =>
    obtain ⟨rfl, rfl⟩ := List.cons.inj same
    exact exists_hexEscape rest
  case h_9 same =>
    obtain ⟨rfl, rfl⟩ := List.cons.inj same
    exact exists_unicodeEscape rest
  case h_10 after same =>
    obtain ⟨rfl, rfl⟩ := List.cons.inj same
    exact ⟨['\n'], rfl, divides_plain (by decide), Nat.zero_le 1⟩
  case h_11 same =>
    obtain ⟨rfl, rfl⟩ := List.cons.inj same
    refine ⟨[], ?_, divides_nil, ?_⟩ <;> split <;> split <;> simp
  all_goals
    rename_i same
    obtain ⟨rfl, rfl⟩ := List.cons.inj same
    exact ⟨[], rfl, divides_nil, Nat.le_refl 1⟩

end Reading

section Steps

/-- A step reads the units of a group and writes no more characters than it reads, and fewer if it
reads a backslash. -/
structure Step.Reads (step : Step) (group : List Text) : Prop where
  nonempty : group ≠ []
  read : step.read = group.flatten
  attended : step.read ≠ ['\\']
  shorter : step.written.length ≤ step.read.length
  equal : step.written.length = step.read.length ↔ '\\' ∉ step.read

theorem stepsFrom_escape (fuel : Nat) (rest : Text) :
    stepsFrom (fuel + 1) ('\\' :: rest) =
      ⟨'\\' :: rest.take (rest.length - (decodeEscape rest).2.length), (decodeEscape rest).1⟩ ::
        stepsFrom fuel (decodeEscape rest).2 :=
  rfl

theorem stepsFrom_plain (unescaped : c ≠ '\\') (fuel : Nat) (rest : Text) :
    stepsFrom (fuel + 1) (c :: rest) = ⟨[c], [c]⟩ :: stepsFrom fuel rest := by
  rw [stepsFrom]
  exact unescaped

theorem unescapeFrom_eq {fuel : Nat} (enough : body.length ≤ fuel) :
    unescapeFrom fuel body = (stepsFrom fuel body).flatMap Step.written := by
  induction fuel generalizing body with
  | zero =>
    obtain rfl := List.eq_nil_of_length_eq_zero (Nat.le_zero.1 enough)
    rfl
  | succ fuel ih =>
    cases body with
    | nil => rfl
    | cons c rest =>
      have here := Nat.le_of_succ_le_succ enough
      by_cases escape : c = '\\'
      · subst escape
        rw [unescapeFrom, stepsFrom_escape, List.flatMap_cons,
          ← ih (Nat.le_trans (length_decodeEscape_le rest) here)]
      · rw [unescapeFrom, stepsFrom_plain escape, List.flatMap_cons, ← ih here]
        · rfl
        · exact escape

theorem reads_plain (unescaped : c ≠ '\\') : Step.Reads ⟨[c], [c]⟩ [[c]] where
  nonempty := List.cons_ne_nil _ _
  read := rfl
  attended same := unescaped (List.cons.inj same).1
  shorter := Nat.le_refl 1
  equal := by simpa using unescaped.symm

theorem reads_escape {written : Text} {front : List Text} (once : written.length ≤ 1)
    (flat : front.flatten = taken) :
    Step.Reads ⟨'\\' :: c :: taken, written⟩ (['\\', c] :: front) where
  nonempty := List.cons_ne_nil _ _
  read := by rw [List.flatten_cons, flat]; rfl
  attended same := by cases (List.cons.inj same).2
  shorter := by
    simp only [List.length_cons]
    omega
  equal := by
    simp only [List.length_cons, List.mem_cons, true_or, not_true_eq_false, iff_false]
    omega

theorem stepsFrom_pair (fuel : Nat) (c : Char) (formed : ∀ unit ∈ units, BodyUnit delimiter unit) :
    ∃ step front back, units = front ++ back ∧ step.Reads (['\\', c] :: front) ∧
      stepsFrom (fuel + 1) ('\\' :: c :: units.flatten) = step :: stepsFrom fuel back.flatten := by
  obtain ⟨taken, whole, divides, once⟩ := exists_decodeEscape c units.flatten
  obtain ⟨front, back, split, flat, behind⟩ := divides delimiter units _ formed whole
  refine ⟨⟨'\\' :: c :: taken, _⟩, front, back, split, reads_escape once flat, ?_⟩
  have length : (c :: units.flatten).length - (decodeEscape (c :: units.flatten)).2.length =
      (c :: taken).length := by
    have lengths := congrArg List.length whole
    rw [List.length_append] at lengths
    rw [List.length_cons, List.length_cons]
    omega
  have read : (c :: units.flatten).take (c :: taken).length = c :: taken := by
    rw [List.length_cons, List.take_succ_cons]
    exact congrArg (c :: ·) ((congrArg (List.take taken.length) whole).trans List.take_left)
  rw [stepsFrom_escape, length, read, behind]

theorem stepsFrom_units {fuel : Nat} (formed : ∀ unit ∈ units, BodyUnit delimiter unit)
    (enough : units.flatten.length ≤ fuel) :
    ∃ groups : List (List Text), groups.flatten = units ∧
      List.Forall₂ Step.Reads (stepsFrom fuel units.flatten) groups := by
  induction fuel generalizing units with
  | zero =>
    cases units with
    | nil => exact ⟨[], rfl, .nil⟩
    | cons unit units =>
      have pos := (formed unit (List.mem_cons_self ..)).pos
      rw [List.flatten_cons, List.length_append] at enough
      omega
  | succ fuel ih =>
    cases units with
    | nil => exact ⟨[], rfl, .nil⟩
    | cons unit units =>
      obtain ⟨first, others⟩ := List.forall_mem_cons.1 formed
      rw [List.flatten_cons, List.length_append] at enough
      rw [List.flatten_cons]
      cases first with
      | @plain c unquoted unescaped =>
        rw [List.length_singleton] at enough
        obtain ⟨groups, rfl, reads⟩ := ih others (by omega)
        refine ⟨[[c]] :: groups, rfl, ?_⟩
        rw [List.singleton_append, stepsFrom_plain unescaped]
        exact .cons (reads_plain unescaped) reads
      | pair c =>
        -- the step may take further units along; the induction goes on behind all of them
        obtain ⟨step, front, back, rfl, first, next⟩ := stepsFrom_pair fuel c others
        rw [List.flatten_append, List.length_append, List.length_cons] at enough
        obtain ⟨groups, rfl, reads⟩ :=
          ih (fun unit mem => others unit (List.mem_append_right _ mem)) (by omega)
        refine ⟨(['\\', c] :: front) :: groups, rfl, ?_⟩
        rw [List.cons_append, List.singleton_append, next]
        exact .cons first reads

section Run

variable {steps : List Step} {groups : List (List Text)}

theorem map_read (reads : List.Forall₂ Step.Reads steps groups) :
    steps.map Step.read = groups.map List.flatten := by
  induction reads with
  | nil => rfl
  | cons first _ ih => rw [List.map_cons, List.map_cons, first.read, ih]

theorem attended_of_reads (reads : List.Forall₂ Step.Reads steps groups) :
    (∀ step ∈ steps, step.read ≠ ['\\']) ∧ ∀ group ∈ groups, group ≠ [] := by
  induction reads with
  | nil => exact ⟨nofun, nofun⟩
  | cons first _ ih =>
    exact ⟨List.forall_mem_cons.2 ⟨first.attended, ih.1⟩,
      List.forall_mem_cons.2 ⟨first.nonempty, ih.2⟩⟩

theorem flatMap_read (reads : List.Forall₂ Step.Reads steps groups) :
    steps.flatMap Step.read = groups.flatten.flatten := by
  rw [List.flatMap_def, map_read reads, List.flatten_flatten]

theorem length_flatMap_written (reads : List.Forall₂ Step.Reads steps groups) :
    (steps.flatMap Step.written).length ≤ (steps.flatMap Step.read).length ∧
      ((steps.flatMap Step.written).length = (steps.flatMap Step.read).length ↔
        '\\' ∉ steps.flatMap Step.read) := by
  induction reads with
  | nil => simp
  | cons first _ ih =>
    have shorter := first.shorter
    have equal := first.equal
    obtain ⟨shorter', equal'⟩ := ih
    simp only [List.flatMap_cons, List.length_append, List.mem_append, not_or, ← equal, ← equal']
    omega

end Run

end Steps

section Captured

variable {objects methods : List Text} {text literal : Text} {skip : Nat} {found : Found}

theorem Spelled.exists_units (spelled : Spelled delimiter body) :
    ∃ units : List Text, (∀ unit ∈ units, BodyUnit delimiter unit) ∧ body = units.flatten := by
  induction spelled with
  | nil => exact ⟨[], nofun, rfl⟩
  | @plain c rest unquoted unescaped _ ih =>
    obtain ⟨units, formed, rfl⟩ := ih
    exact ⟨[c] :: units, List.forall_mem_cons.2 ⟨.plain unquoted unescaped, formed⟩, rfl⟩
  | @pair c rest _ ih =>
    obtain ⟨units, formed, rfl⟩ := ih
    exact ⟨['\\', c] :: units, List.forall_mem_cons.2 ⟨.pair c, formed⟩, rfl⟩

theorem arguments?_of_call? (matched : call? objects methods text = some (found, after)) :
    ∃ rest, arguments? rest = some (found, after) := by
  obtain ⟨object, -, first⟩ := List.exists_of_findSome?_eq_some matched
  unfold afterObject? at first
  split at first
  · obtain ⟨method, -, second⟩ := List.exists_of_findSome?_eq_some first
    unfold afterMethod? at second
    split at second
    · exact ⟨_, second⟩
    · cases second
  · cases first

theorem arguments_of_mem_scanFrom (mem : found ∈ scanFrom objects methods skip text) :
    ∃ arguments, Arguments found arguments := by
  fun_induction scanFrom objects methods skip text with
  | case1 => cases mem
  | case2 skip c rest ih => exact ih mem
  | case3 c rest found' after matched ih =>
    rcases List.mem_cons.1 mem with rfl | mem
    · obtain ⟨inside, read⟩ := arguments?_of_call? matched
      obtain ⟨arguments, listed, -⟩ := arguments?_sound read
      exact ⟨arguments, listed⟩
    · exact ih mem
  | case4 c rest none ih => exact ih mem

theorem literal_of_mem_bodies {arguments : Text} (listed : Arguments found arguments)
    (mem : body ∈ found.bodies) : ∃ literal, Literal body literal := by
  cases listed with
  | message quoted =>
    obtain rfl : body = _ := by simpa [Found.bodies] using mem
    exact ⟨_, quoted⟩
  | domain quoted _ _ _ _ _ named =>
    simp only [Found.bodies, Option.toList_some, List.mem_cons, List.not_mem_nil, or_false] at mem
    rcases mem with rfl | rfl
    · exact ⟨_, quoted⟩
    · exact ⟨_, named⟩

theorem exists_units_of_mem_scan {config : Config} {source : Text}
    (mem : found ∈ scan config source) (captured : body ∈ found.bodies) :
    ∃ delimiter units, (delimiter = '\'' ∨ delimiter = '"') ∧ units ≠ [] ∧
      (∀ unit ∈ units, BodyUnit delimiter unit) ∧ body = units.flatten := by
  obtain ⟨arguments, listed⟩ := arguments_of_mem_scanFrom mem
  obtain ⟨_, quotes, nonempty, spelled⟩ := literal_of_mem_bodies listed captured
  obtain ⟨units, formed, rfl⟩ := spelled.exists_units
  refine ⟨_, units, quotes, ?_, formed, rfl⟩
  rintro rfl
  exact nonempty rfl

end Captured

/-- What decoding does with the body that some units make up: each step reads the next of them, none
begins between a backslash and its character, and characters are lost where there is a backslash. -/
structure DecodedByUnits (units : List Text) : Prop where
  grouped : ∃ groups : List (List Text), groups.flatten = units ∧ (∀ group ∈ groups, group ≠ []) ∧
    (steps units.flatten).map Step.read = groups.map List.flatten
  written : unescape units.flatten = (steps units.flatten).flatMap Step.written
  attended : ∀ step ∈ steps units.flatten, step.read ≠ ['\\']
  shorter : (unescape units.flatten).length ≤ units.flatten.length
  equal : (unescape units.flatten).length = units.flatten.length ↔ '\\' ∉ units.flatten

theorem decodedByUnits_of_formed (formed : ∀ unit ∈ units, BodyUnit delimiter unit) :
    DecodedByUnits units := by
  have written : unescape units.flatten = (steps units.flatten).flatMap Step.written :=
    unescapeFrom_eq (Nat.le_refl _)
  obtain ⟨groups, rfl, reads⟩ : ∃ groups : List (List Text), groups.flatten = units ∧
      List.Forall₂ Step.Reads (steps units.flatten) groups :=
    stepsFrom_units formed (Nat.le_refl _)
  obtain ⟨attended, nonempty⟩ := attended_of_reads reads
  obtain ⟨shorter, equal⟩ := length_flatMap_written reads
  rw [flatMap_read reads, ← written] at shorter equal
  exact ⟨⟨groups, rfl, nonempty, map_read reads⟩, written, attended, shorter, equal⟩

/-- Every body that is made of units is decoded by units, and the bodies of all calls that are found
are made of units. -/
theorem bodies_decodedByUnits :
    (∀ (delimiter : Char) (units : List Text), (∀ unit ∈ units, BodyUnit delimiter unit) →
      DecodedByUnits units) ∧
    ∀ (config : Config) (source : Text), ∀ found ∈ scan config source, ∀ body ∈ found.bodies,
      ∃ delimiter units, (delimiter = '\'' ∨ delimiter = '"') ∧ units ≠ [] ∧
        (∀ unit ∈ units, BodyUnit delimiter unit) ∧ body = units.flatten ∧
          DecodedByUnits units := by
  refine ⟨fun _ _ => decodedByUnits_of_formed, fun config source found mem body captured => ?_⟩
  obtain ⟨delimiter, units, quotes, nonempty, formed, whole⟩ :=
    exists_units_of_mem_scan mem captured
  exact ⟨delimiter, units, quotes, nonempty, formed, whole, decodedByUnits_of_formed formed⟩

theorem bodies_decodedByUnits_continued :
    let units : List Text := [['a'], ['\\', 'x'], ['4'], ['1'], ['\\', '\''], ['\\', '\\'],
      ['\\', '\r'], ['\n'], ['\\', 'u'], ['4']]
    let body := "a\\x41\\'\\\\\\\r\n\\u4".toList
    (∀ unit ∈ units, BodyUnit '\'' unit) ∧ units.flatten = body ∧ DecodedByUnits units ∧
      (steps body).map Step.read = [['a'], "\\x41".toList, "\\'".toList, "\\\\".toList,
        "\\\r\n".toList, "\\u".toList, ['4']] ∧
      unescape body = "aA'\\u4".toList ∧
      ∃ found ∈ scan .standard ("(Translator.trans('".toList ++ (body ++ "')".toList)),
        body ∈ found.bodies := by
  intro units body
  have formed : ∀ unit ∈ units, BodyUnit '\'' unit := by
    simp only [units, List.forall_mem_cons]
    exact ⟨.plain (by decide) (by decide), .pair 'x', .plain (by decide) (by decide),
      .plain (by decide) (by decide), .pair '\'', .pair '\\', .pair '\r',
      .plain (by decide) (by decide), .pair 'u', .plain (by decide) (by decide), nofun⟩
  have found : (⟨body, none⟩ : Found) ∈
      scan .standard ("(Translator.trans('".toList ++ (body ++ "')".toList)) := by
    decide +kernel
  exact ⟨formed, by decide, bodies_decodedByUnits.1 '\'' units formed, by decide +kernel,
    by decide +kernel, _, found, List.mem_cons_self ..⟩

end MessageHarvest.Call
