import MessageHarvest.Proofs.Call.Shape
import MessageHarvest.Proofs.Call.Walk
import MessageHarvest.Proofs.Script.Inside

/-!
A call that is found without a parser, against the call site that the parser finds in the same text.
-/

namespace MessageHarvest.Call

open Script (Ending Node parseModule)

variable {config : Config} {file : Text}

theorem domainOf_append {first : Node} {items : List Node} {domain : Text} {line : Nat}
    (some : items ≠ []) :
    domainOf config (first :: (items ++ [.string line domain])) = domain := by
  have many : 2 < (first :: (items ++ [Node.string line domain])).length := by
    cases items with
    | nil => exact absurd rfl some
    | cons item items => simp
  have last : (first :: (items ++ [Node.string line domain])).getLast? =
      Option.some (.string line domain) := by
    rw [← List.cons_append, List.getLast?_concat]
  exact (domainOf_eq_iff ..).2 (.named ⟨many, last⟩)

/-- The call that an optional chain ends with stands under its last link. -/
def unchained : Node → Node
  | .chain _ base => base
  | node => node

theorem Calls.callee_eq {callee inner node : Node} {arguments : List Node}
    (calls : Calls callee arguments node) (accesses : Script.Parse.Accesses inner node) :
    callee = inner := by
  cases calls <;> cases accesses <;> rfl

theorem NamesTranslator.isHigh_eq {callee : Node} (names : NamesTranslator config callee) :
    Script.Parse.isHigh callee = false := by
  cases names <;> rfl

theorem site?_of_isHigh {inner node : Node} (high : Script.Parse.isHigh inner = true)
    (extends' : Script.Parse.Extends inner node) : site? config file (unchained node) = none := by
  cases site : site? config file (unchained node) with
  | none => rfl
  | some record =>
    obtain ⟨calls, translator, -⟩ := (site?_eq_some_iff ..).1 site
    have called : ∃ base, unchained node = base ∧ Script.Parse.Accesses inner base := by
      cases extends' with
      | plain accesses => exact ⟨_, by cases accesses <;> rfl, accesses⟩
      | chain accesses => exact ⟨_, rfl, accesses⟩
    obtain ⟨base, same, accesses⟩ := called
    rw [same] at calls
    obtain rfl := calls.callee_eq accesses
    rw [translator.isHigh_eq] at high
    cases high

theorem isWide_of_site? {node : Node} {site : MessageRecord}
    (sited : site? config file (unchained node) = some site) : node.isWide = false := by
  obtain ⟨calls, -, -⟩ := (site?_eq_some_iff ..).1 sited
  cases node <;> first | rfl | cases calls

theorem site?_callOfProperty {object method : Text} {line : Nat} {others : List Node}
    {message : Text} {line' : Nat} {site : MessageRecord}
    (sited : site? config file (Script.Parse.callOfProperty object method line
      (.string line' (some message) :: others)) = some site) :
    site.message = message ∧
      site.domain = domainOf config (.string line' (some message) :: others) := by
  obtain ⟨⟨⟩, -, tells⟩ := (site?_eq_some_iff ..).1 sited
  obtain ⟨⟨⟩, -, resolved⟩ := tells
  exact ⟨rfl, ((domainOf_eq_iff ..).2 resolved).symm⟩

theorem unopened_of_isName {name : Text} (h : Script.Word.isName name = true) : '(' ∉ name := by
  cases name with
  | nil => exact List.not_mem_nil
  | cons c cs =>
    obtain ⟨first, others⟩ := Bool.and_eq_true_iff.1 h
    rw [List.mem_cons, not_or]
    refine ⟨Ne.symm (Script.ne_of_startsIdentifier first (by decide)), fun mem => ?_⟩
    have continues := List.all_eq_true.1 others '(' mem
    revert continues
    decide

section Sites

variable {object method message spaces tail : Text} {delimiter c : Char} {mark : Script.Mark}
  {node : Node} {site : MessageRecord}

theorem site_of_single (objectName : Script.Word.isName object = true)
    (reference : Script.Word.isReference object = true)
    (methodName : Script.Word.isName method = true) (quotes : delimiter = '\'' ∨ delimiter = '"')
    (unquoted : delimiter ∉ message) (unescaped : '\\' ∉ message)
    (blank : ∀ d ∈ spaces, Text.isSpace d = true) (single : Script.Lexeme.Single c mark)
    (closes : mark ≠ .parenOpen)
    (parsed : parseModule (object ++ '.' :: (method ++ '(' ::
      delimiter :: (message ++ delimiter :: (spaces ++ c :: tail)))) = .ok (.moduleBody 1 [node]))
    (sited : site? config file (unchained node) = some site) :
    site.message = message ∧ ∃ line others start stop,
      site.domain = domainOf config (.string line (some message) :: others) ∧
      Script.Remaining (object ++ '.' :: (method ++ '(' ::
        delimiter :: (message ++ delimiter :: (spaces ++ c :: tail)))) others start stop ∧
      ((mark = .comma ∧ ∃ place, place.rest = tail ∧ (Script.Lexeme.next place).notes = [] ∧
          start.current = Script.Lexeme.next place) ∨
        (mark = .parenClose ∧ start.current.token = .mark .parenClose ∧
          start.current.after.rest = tail)) := by
  have narrow := isWide_of_site? sited
  rcases Script.remaining_of_single objectName reference methodName quotes unquoted unescaped blank
    single closes rfl parsed narrow with ⟨_, line, others, start, stop, rfl, remaining, place⟩ | far
  · obtain ⟨same, resolved⟩ := site?_callOfProperty sited
    exact ⟨same, line, others, start, stop, resolved, remaining, place⟩
  · obtain ⟨inner, high, extends'⟩ := far
    rw [site?_of_isHigh high extends'] at sited
    cases sited

end Sites

/-- A match whose domain ends where the call does. No slashes before the comma in front of the domain
can hide it in a line comment that ends before the domain, and none follow a parenthesis inside it. -/
structure Undisturbed (parameters domain after : Text) : Prop where
  whole : after = []
  unescaped : '\\' ∉ domain
  shown : ∀ front line blanks literal, parameters = front ++ ',' :: (blanks ++ literal) →
    (∀ c ∈ blanks, Text.isSpace c = true) → Quoted domain [')'] literal →
    '/' :: '/' :: line <:+ front → (∀ c ∈ line, Script.isLineTerminator c = false) →
    ∀ c ∈ blanks, Script.isLineTerminator c = false
  uncommented : ∀ rest, ')' :: rest <:+ domain → ¬ ['/', '/'] <:+: rest

theorem undisturbed_of_unslashed {parameters domain : Text} (unslashed : '/' ∉ parameters)
    (unescaped : '\\' ∉ domain) (unclosed : ')' ∉ domain) :
    Undisturbed parameters domain [] where
  whole := rfl
  unescaped := unescaped
  shown := by
    intro front line blanks literal whole _ _ comment
    have slash : '/' ∈ front := comment.subset (List.mem_cons_self ..)
    rw [whole] at unslashed
    exact absurd (List.mem_append_left _ slash) unslashed
  uncommented := by
    intro rest closes
    exact absurd (closes.subset (List.mem_cons_self ..)) unclosed

theorem Undisturbed.domainOf_eq {parameters domain after source : Text}
    (h : Undisturbed parameters domain after) (last : LastDomain domain after parameters)
    {place : Script.Cursor} (whole : place.rest = parameters)
    (clean : (Script.Lexeme.next place).notes = []) {others : List Node} {start stop : Script.State}
    (begins : start.current = Script.Lexeme.next place)
    (remaining : Script.Remaining source others start stop) (first : Node) :
    domainOf config (first :: others) = domain := by
  obtain rfl := h.whole
  cases last with
  | @mk front blanks literal unclosed blank quoted =>
    have oneLine (line : Text) := h.shown front line blanks literal rfl blank quoted
    cases quoted with
    | @mk delimiter quotes unquoted =>
      let ending : Ending := ⟨blanks, delimiter, domain, blank, quotes, unquoted, h.unescaped⟩
      have tail : place.rest = front ++ ending.text := whole
      have shown : ending.Shown front := oneLine
      obtain ⟨items, line, some, rfl⟩ :=
        remaining.literal tail clean begins unclosed shown h.uncommented
      exact domainOf_append some

section Agreement

variable {object method rest after : Text} {found : Found} {node : Node} {site : MessageRecord}

/-- The message is always that of the call site; the domain is, unless the match is disturbed. -/
theorem record_agrees (objectNames : ∀ name ∈ config.translatorObjects, '(' ∉ name)
    (methodNames : ∀ name ∈ config.translatorMethods, '(' ∉ name)
    (objectName : Script.Word.isName object = true)
    (reference : Script.Word.isReference object = true)
    (methodName : Script.Word.isName method = true)
    (parsed : parseModule (object ++ '.' :: (method ++ '(' :: rest)) = .ok (.moduleBody 1 [node]))
    (sited : site? config file (unchained node) = some site)
    (matched : call? (alternatives config.translatorObjects) (alternatives config.translatorMethods)
      (object ++ '.' :: (method ++ '(' :: rest)) = some (found, after))
    (unescaped : '\\' ∉ found.message) :
    (record config file found).message = site.message ∧
      ((∀ domain spaces parameters, found.domain = some domain →
          (∀ c ∈ spaces, Text.isSpace c = true) →
          Quoted found.message (spaces ++ ',' :: parameters) rest →
          Undisturbed parameters domain after) →
        (record config file found).domain = site.domain) := by
  have unopened : '(' ∉ object ++ '.' :: method := by
    simp [unopened_of_isName objectName, unopened_of_isName methodName]
  have opened : object ++ '.' :: (method ++ '(' :: rest) =
      (object ++ '.' :: method) ++ '(' :: rest := by
    simp
  rw [opened] at matched
  have arguments := call?_eq_some (unopened_alternatives objectNames)
    (unopened_alternatives methodNames) unopened matched
  have listed := arguments?_eq_some arguments unescaped
  have plain : unescape found.message = found.message := unescape_plain unescaped
  -- behind the message the match has found the end of the list, or else a comma
  cases listed with
  | @alone message _ _ quoted =>
    cases quoted with
    | mk quotes unquoted =>
      have blank : ∀ d ∈ ([] : Text), Text.isSpace d = true := nofun
      obtain ⟨same, line, others, start, stop, resolved, remaining, place⟩ :=
        site_of_single objectName reference methodName quotes unquoted unescaped
          blank .parenClose nofun parsed sited
      refine ⟨plain.trans same.symm, fun _ => ?_⟩
      rcases place with ⟨comma, -⟩ | ⟨-, close, -⟩
      · cases comma
      · rw [remaining.nothing close] at resolved
        exact resolved.symm
  | @domain message domain _ _ _ quoted parameters =>
    cases quoted with
    | mk quotes unquoted =>
      cases parameters with
      | @mk spaces tail blank last =>
        obtain ⟨same, line, others, start, stop, resolved, remaining, place⟩ :=
          site_of_single objectName reference methodName quotes unquoted unescaped
            blank .comma nofun parsed sited
        refine ⟨plain.trans same.symm, fun undisturbed => ?_⟩
        rcases place with ⟨-, place, whole, clean, first⟩ | ⟨close, -⟩
        · have here := undisturbed domain spaces tail rfl blank (.mk quotes unquoted)
          have plain' : unescape domain = domain := unescape_plain here.unescaped
          rw [here.domainOf_eq (last here.unescaped) whole clean first remaining] at resolved
          exact plain'.trans resolved.symm
        · cases close

theorem record_agrees_parameters :
    ∃ node site found,
      parseModule ("Translator".toList ++ '.' :: ("trans".toList ++ '(' :: "'a', {}, 'd')".toList)) =
        .ok (.moduleBody 1 [node]) ∧
      site? default [] (unchained node) = some site ∧
      call? (alternatives (default : Config).translatorObjects)
        (alternatives (default : Config).translatorMethods)
        ("Translator".toList ++ '.' :: ("trans".toList ++ '(' :: "'a', {}, 'd')".toList)) =
          some (found, []) ∧
      found = ⟨['a'], some ['d']⟩ ∧
      (record default [] found).message = site.message ∧
      (record default [] found).domain = site.domain := by
  let node : Node := .call 1 (.member 1 (.identifier 1 "Translator".toList) "trans".toList)
    [.string 1 (some ['a']), .object 1 [] none, .string 1 (some ['d'])]
  have parsed : parseModule
      ("Translator".toList ++ '.' :: ("trans".toList ++ '(' :: "'a', {}, 'd')".toList)) =
        .ok (.moduleBody 1 [node]) := by
    rfl
  have sited : site? default [] (unchained node) = some ⟨['a'], ['d'], [], some 1⟩ := by
    rfl
  have matched : call? (alternatives (default : Config).translatorObjects)
      (alternatives (default : Config).translatorMethods)
      ("Translator".toList ++ '.' :: ("trans".toList ++ '(' :: "'a', {}, 'd')".toList)) =
        some (⟨['a'], some ['d']⟩, []) := by
    decide +kernel
  have agrees := record_agrees (by decide) (by decide) (by decide +kernel) (by decide +kernel)
    (by decide +kernel) parsed sited matched (by decide)
  refine ⟨node, _, _, parsed, sited, matched, rfl, agrees.1, agrees.2 ?_⟩
  intro domain spaces parameters named blank quoted
  cases named
  have whole : '/' ∉ "'a', {}, 'd')".toList := by decide
  have behind : ',' :: parameters <:+ spaces ++ ',' :: parameters := List.suffix_append ..
  have unslashed : '/' ∉ parameters := fun slash =>
    whole ((behind.trans quoted.suffix).subset (List.mem_cons_of_mem ',' slash))
  exact undisturbed_of_unslashed unslashed (by decide) (by decide)

theorem records_not_sites_nested :
    (parseModule "Translator.trans('a', f({}, 'y'))".toList).toOption.map (sites default []) =
        some [⟨['a'], "messages".toList, [], some 1⟩] ∧
      records default "Translator.trans('a', f({}, 'y'))".toList [] = [⟨['a'], ['y'], [], none⟩] := by
  decide +kernel

example :
    (parseModule "Translator.trans('a', // b,\n'd')".toList).toOption.map (sites default []) =
        some [⟨['a'], "messages".toList, [], some 1⟩] ∧
      records default "Translator.trans('a', // b,\n'd')".toList [] = [⟨['a'], ['d'], [], none⟩] := by
  decide +kernel

end Agreement

end MessageHarvest.Call
