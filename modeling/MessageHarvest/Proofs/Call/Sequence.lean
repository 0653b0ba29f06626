import MessageHarvest.Proofs.Call.Shape

namespace MessageHarvest.Call

/-- Calls of the grammar between gaps without an opening parenthesis. No comma stands in a domain. -/
inductive Sequence (config : Config) : List Found → Text → Prop
  | gap {gap : Text} (unopened : '(' ∉ gap) : Sequence config [] gap
  | call {gap call rest : Text} {found : Found} {founds : List Found} (unopened : '(' ∉ gap)
      (stands : CallText config found call)
      (plain : ∀ domain, found.domain = some domain → ',' ∉ domain)
      (following : Sequence config founds rest) :
      Sequence config (found :: founds) (gap ++ (call ++ rest))

section Domain

variable {domain after : Text}

theorem lastDomain?_eq_none {text : Text} (plain : ',' ∉ text) (after : Text) :
    lastDomain? (text ++ ')' :: after) = none := by
  induction text with
  | nil => rfl
  | cons c text ih =>
    rw [List.mem_cons, not_or] at plain
    rw [List.cons_append, lastDomain?, ih plain.2]
    split
    · rfl
    · exact if_neg fun same => plain.1 same.symm

theorem Blank.plain {blanks : Text} (blank : Blank blanks) : ',' ∉ blanks := fun mem => by
  cases blank _ mem

theorem Literal.plain {body literal : Text} (h : Literal body literal) (plain : ',' ∉ body) :
    ',' ∉ literal := by
  cases h with
  | mk quotes => rcases quotes with rfl | rfl <;> simp [plain]

theorem lastDomain?_exact {front blanks literal : Text} (unclosed : ')' ∉ front)
    (blank : Blank blanks) (named : Literal domain literal) (plain : ',' ∉ domain) :
    lastDomain? (front ++ ',' :: (blanks ++ (literal ++ ')' :: after))) = some (domain, after) := by
  induction front with
  | nil =>
    have later : lastDomain? (blanks ++ (literal ++ ')' :: after)) = none := by
      rw [← List.append_assoc]
      exact lastDomain?_eq_none (by simp [blank.plain, named.plain plain]) after
    rw [List.nil_append, lastDomain?, if_neg (by decide), later, closing?_skipSpaces blank named]
    rfl
  | cons c front ih =>
    rw [List.mem_cons, not_or] at unclosed
    rw [List.cons_append, lastDomain?, if_neg fun same => unclosed.1 same.symm, ih unclosed.2]

end Domain

section Exact

variable {config : Config} {found : Found}

theorem arguments?_exact {arguments : Text} (listed : Arguments found arguments)
    (plain : ∀ domain, found.domain = some domain → ',' ∉ domain) (after : Text) :
    arguments? (arguments ++ ')' :: after) = some (found, after) := by
  cases listed with
  | message quoted =>
    rw [arguments?, quoted?_eq_some_iff.2 ⟨_, quoted, rfl⟩]
    rfl
  | domain quoted counted separated nonempty unclosed separated' named =>
    obtain ⟨front, blanks, open', blank, same⟩ :=
      parameters?_eq_lastDomain? counted separated nonempty unclosed separated' after
    have read := same.trans (lastDomain?_exact open' blank named (plain _ rfl))
    simp only [List.append_assoc, arguments?_domain quoted read]

variable (objectNames : ∀ name ∈ config.translatorObjects, '(' ∉ name)
  (methodNames : ∀ name ∈ config.translatorMethods, '(' ∉ name)

include objectNames methodNames

/-- A match that begins in the gap takes other names, and what is behind them in any case. -/
theorem call?_exact {gap call : Text} (unopened : '(' ∉ gap) (stands : CallText config found call)
    (plain : ∀ domain, found.domain = some domain → ',' ∉ domain) {rest : Text} {match' : Found × Text}
    (matched : call? (alternatives config.translatorObjects) (alternatives config.translatorMethods)
      (gap ++ (call ++ rest)) = some match') : match' = (found, rest) := by
  cases stands with
  | @mk object method arguments object_mem object_ne method_mem method_ne listed =>
    have head : '(' ∉ gap ++ (object ++ '.' :: method) := by
      simp [unopened, objectNames object object_mem, methodNames method method_mem]
    have whole : gap ++ ((object ++ '.' :: (method ++ '(' :: (arguments ++ [')']))) ++ rest) =
        (gap ++ (object ++ '.' :: method)) ++ '(' :: (arguments ++ ')' :: rest) := by
      simp
    rw [whole] at matched
    have behind := call?_eq_some (unopened_alternatives objectNames)
      (unopened_alternatives methodNames) head matched
    rw [arguments?_exact listed plain] at behind
    exact (Option.some.inj behind).symm

end Exact

section Scan

variable {config : Config} {found : Found} {founds : List Found} {source : Text}

theorem scanFrom_append (objects methods : List Text) (skipped text : Text) :
    scanFrom objects methods skipped.length (skipped ++ text) = scanFrom objects methods 0 text := by
  induction skipped with
  | nil => rfl
  | cons c skipped ih => rw [List.cons_append, List.length_cons, scanFrom, ih]

theorem scan_of_call? {before rest : Text} (nonempty : before ≠ [])
    (matched : call? (alternatives config.translatorObjects) (alternatives config.translatorMethods)
      (before ++ rest) = some (found, rest)) :
    scan config (before ++ rest) = found :: scan config rest := by
  obtain ⟨c, more, rfl⟩ := List.exists_cons_of_ne_nil nonempty
  rw [List.cons_append] at matched ⊢
  rw [scan, scanFrom, matched]
  dsimp only
  rw [List.length_append, Nat.add_sub_cancel, scanFrom_append, scan]

theorem scan_unopened (valid : config.Valid) {gap : Text} (unopened : '(' ∉ gap) :
    scan config gap = [] := by
  induction gap with
  | nil => rfl
  | cons c gap ih =>
    rw [scan, scanFrom]
    split
    · rename_i found after matched
      obtain ⟨call, stands, whole⟩ := call?_sound valid matched
      cases stands
      rw [whole] at unopened
      simp at unopened
    · exact ih fun mem => unopened (List.mem_cons_of_mem c mem)

variable (valid : config.Valid) (objectNames : ∀ name ∈ config.translatorObjects, '(' ∉ name)
  (methodNames : ∀ name ∈ config.translatorMethods, '(' ∉ name)

include valid objectNames methodNames

theorem scan_call {gap call : Text} (unopened : '(' ∉ gap) (stands : CallText config found call)
    (plain : ∀ domain, found.domain = some domain → ',' ∉ domain) (rest : Text) :
    scan config (gap ++ (call ++ rest)) = found :: scan config rest := by
  induction gap with
  | nil =>
    obtain ⟨match', matched⟩ := Option.isSome_iff_exists.1 (call?_complete valid stands rest)
    obtain rfl := call?_exact objectNames methodNames List.not_mem_nil stands plain matched
    exact scan_of_call? (List.ne_nil_of_length_pos stands.pos) matched
  | cons c gap ih =>
    cases matched : call? (alternatives config.translatorObjects)
        (alternatives config.translatorMethods) (c :: gap ++ (call ++ rest)) with
    | some match' =>
      -- what is found in the gap already has the arguments of the call
      obtain rfl := call?_exact objectNames methodNames unopened stands plain matched
      rw [← List.append_assoc] at matched ⊢
      exact scan_of_call? (List.cons_ne_nil c (gap ++ call)) matched
    | none =>
      rw [List.cons_append] at matched ⊢
      rw [scan, scanFrom, matched]
      exact ih fun mem => unopened (List.mem_cons_of_mem c mem)

theorem scan_sequence (sequence : Sequence config founds source) : scan config source = founds := by
  induction sequence with
  | gap unopened => exact scan_unopened valid unopened
  | call unopened stands plain _ ih =>
    rw [scan_call valid objectNames methodNames unopened stands plain, ih]

/-- The records of a sequence of calls are one record for each of them, in their order. -/
theorem records_sequence (sequence : Sequence config founds source) (file : Text) :
    records config source file = founds.map fun found => {
      message := unescape found.message
      domain := match found.domain with
        | some body => unescape body
        | none => config.defaultDomain
      file := file
      line := none } := by
  rw [records, scan_sequence valid objectNames methodNames sequence]
  refine List.map_congr_left fun found _ => ?_
  obtain ⟨message, domain⟩ := found
  cases domain <;> rfl

end Scan

/-- One name is a prefix of the other. -/
def twoNames : Config :=
  { (default : Config) with translatorObjects := ["Trans".toList, "Translator".toList] }

theorem records_sequence_twoNames :
    let founds : List Found := [⟨"it\\'s (".toList, none⟩, ⟨"n".toList, some "d)".toList⟩]
    let source := "xTranslator.trans('it\\'s (');Trans.transChoice(\"n\" , 5,f(1, 'p', \"q\",'d)')".toList
    twoNames.Valid ∧ (∀ name ∈ twoNames.translatorObjects, '(' ∉ name) ∧
      (∀ name ∈ twoNames.translatorMethods, '(' ∉ name) ∧ Sequence twoNames founds source ∧
      records twoNames source [] = [⟨"it's (".toList, "messages".toList, [], none⟩,
        ⟨"n".toList, "d)".toList, [], none⟩] := by
  intro founds source
  have valid : twoNames.Valid := by decide
  have objectNames : ∀ name ∈ twoNames.translatorObjects, '(' ∉ name := by decide
  have methodNames : ∀ name ∈ twoNames.translatorMethods, '(' ∉ name := by decide
  have first : call? (alternatives twoNames.translatorObjects)
      (alternatives twoNames.translatorMethods) "Translator.trans('it\\'s (')".toList =
        some (⟨"it\\'s (".toList, none⟩, []) := by
    decide +kernel
  have second : call? (alternatives twoNames.translatorObjects)
      (alternatives twoNames.translatorMethods)
        "Trans.transChoice(\"n\" , 5,f(1, 'p', \"q\",'d)')".toList =
          some (⟨"n".toList, some "d)".toList⟩, []) := by
    decide +kernel
  obtain ⟨call, stands, whole⟩ := call?_sound valid first
  obtain ⟨call', stands', whole'⟩ := call?_sound valid second
  rw [List.append_nil] at whole whole'
  subst whole whole'
  have sequence : Sequence twoNames founds source :=
    @Sequence.call _ ['x'] _ _ _ _ (by decide) stands nofun
      (@Sequence.call _ [';'] _ _ _ _ (by decide) stands' (by decide) (.gap List.not_mem_nil))
  exact ⟨valid, objectNames, methodNames, sequence,
    (records_sequence valid objectNames methodNames sequence []).trans (by decide +kernel)⟩

end MessageHarvest.Call
