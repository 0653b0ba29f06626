import MessageHarvest.Call.Scan
import Mathlib.Data.List.Basic
import Mathlib.Data.List.TakeWhile

/-!
The grammar of the calls that are found without a parser: what is found at the front of a text is a
call of the grammar, and where one stands something is found.
-/

namespace MessageHarvest.Call

inductive Spelled (delimiter : Char) : Text → Prop
  | nil : Spelled delimiter []
  | plain {c : Char} {rest : Text} (unquoted : c ≠ delimiter) (unescaped : c ≠ '\\')
      (spelled : Spelled delimiter rest) : Spelled delimiter (c :: rest)
  | pair {c : Char} {rest : Text} (spelled : Spelled delimiter rest) :
      Spelled delimiter ('\\' :: c :: rest)

inductive Literal (body : Text) : Text → Prop
  | mk {delimiter : Char} (quotes : delimiter = '\'' ∨ delimiter = '"') (nonempty : body ≠ [])
      (spelled : Spelled delimiter body) : Literal body (delimiter :: (body ++ [delimiter]))

def Blank (text : Text) : Prop := ∀ c ∈ text, Text.isSpace c = true

inductive Comma : Text → Prop
  | mk {before after : Text} (blank : Blank before) (blank' : Blank after) :
      Comma (before ++ ',' :: after)

inductive Count : Text → Prop
  | absent : Count []
  | present {comma digits : Text} (separated : Comma comma) (nonempty : digits ≠ [])
      (decimal : ∀ c ∈ digits, Text.isDecimalDigit c = true) : Count (comma ++ digits)

inductive Arguments : Found → Text → Prop
  | message {message literal : Text} (quoted : Literal message literal) :
      Arguments ⟨message, none⟩ literal
  | domain {message domain literal count comma parameters comma' literal' : Text}
      (quoted : Literal message literal) (counted : Count count) (separated : Comma comma)
      (nonempty : parameters ≠ []) (unclosed : ')' ∉ parameters) (separated' : Comma comma')
      (named : Literal domain literal') :
      Arguments ⟨message, some domain⟩
        (literal ++ (count ++ (comma ++ (parameters ++ (comma' ++ literal')))))

inductive CallText (config : Config) (found : Found) : Text → Prop
  | mk {object method arguments : Text} (object_mem : object ∈ config.translatorObjects)
      (object_ne : object ≠ []) (method_mem : method ∈ config.translatorMethods)
      (method_ne : method ≠ []) (listed : Arguments found arguments) :
      CallText config found (object ++ '.' :: (method ++ '(' :: (arguments ++ [')'])))

section Literals

variable {delimiter : Char} {text body after : Text}

theorem quotedRest?_cons {c : Char} (unescaped : c ≠ '\\') (rest : Text) :
    quotedRest? delimiter (c :: rest) =
      if c = delimiter then some ([], rest)
      else (quotedRest? delimiter rest).map fun (body, after) => (c :: body, after) := by
  rw [quotedRest?]
  · exact fun escape _ => unescaped escape
  · exact fun _ _ escape _ => unescaped escape

theorem quotedRest?_eq_some_iff (other : delimiter ≠ '\\') :
    quotedRest? delimiter text = some (body, after) ↔
      Spelled delimiter body ∧ text = body ++ delimiter :: after := by
  constructor
  · intro found
    fun_induction quotedRest? delimiter text generalizing body with
    | case1 => cases found
    | case2 => cases found
    | case3 c rest ih =>
      obtain ⟨⟨inner, behind⟩, step, same⟩ := Option.map_eq_some_iff.1 found
      cases same
      obtain ⟨spelled, rfl⟩ := ih step
      exact ⟨.pair spelled, rfl⟩
    | case4 rest =>
      cases found
      exact ⟨.nil, rfl⟩
    | case5 c rest lone escape unquoted ih =>
      have unescaped : c ≠ '\\' := by
        intro same
        cases rest with
        | nil => exact lone same rfl
        | cons d rest => exact escape d rest same rfl
      obtain ⟨⟨inner, behind⟩, step, same⟩ := Option.map_eq_some_iff.1 found
      cases same
      obtain ⟨spelled, rfl⟩ := ih step
      exact ⟨.plain unquoted unescaped spelled, rfl⟩
  · rintro ⟨spelled, rfl⟩
    induction spelled with
    | nil => rw [List.nil_append, quotedRest?_cons other, if_pos rfl]
    | plain unquoted unescaped spelled ih =>
      rw [List.cons_append, quotedRest?_cons unescaped, if_neg unquoted, ih]
      rfl
    | pair spelled ih =>
      rw [List.cons_append, List.cons_append, quotedRest?, ih]
      rfl

theorem quoted?_eq_some_iff :
    quoted? text = some (body, after) ↔ ∃ literal, Literal body literal ∧ text = literal ++ after := by
  constructor
  · intro found
    unfold quoted? at found
    split at found
    · cases found
    · rename_i delimiter rest
      split at found
      · rename_i quotes
        rw [Bool.or_eq_true, decide_eq_true_eq, decide_eq_true_eq] at quotes
        have other : delimiter ≠ '\\' := by rcases quotes with rfl | rfl <;> decide
        split at found
        · rename_i read
          cases found
          obtain ⟨spelled, rfl⟩ := (quotedRest?_eq_some_iff other).1 read
          exact ⟨_, .mk quotes (List.cons_ne_nil _ _) spelled, by simp⟩
        · cases found
      · cases found
  · rintro ⟨_, ⟨quotes, nonempty, spelled⟩, rfl⟩
    rename_i delimiter
    have other : delimiter ≠ '\\' := by rcases quotes with rfl | rfl <;> decide
    have quote : (delimiter = '\'' || delimiter = '"') = true := by simpa using quotes
    have read : quotedRest? delimiter ((body ++ [delimiter]) ++ after) = some (body, after) :=
      (quotedRest?_eq_some_iff other).2 ⟨spelled, by simp⟩
    obtain ⟨first, inner, rfl⟩ := List.exists_cons_of_ne_nil nonempty
    rw [List.cons_append, quoted?, if_pos quote, read]

theorem closing?_eq_some_iff :
    closing? text = some (body, after) ↔
      ∃ literal, Literal body literal ∧ text = literal ++ ')' :: after := by
  constructor
  · intro found
    unfold closing? at found
    split at found
    · rename_i read
      cases found
      exact quoted?_eq_some_iff.1 read
    · cases found
  · intro quoted
    rw [closing?, quoted?_eq_some_iff.2 quoted]
    rfl

theorem Literal.head {literal : Text} (h : Literal body literal) (after : Text) :
    ∃ c rest, literal ++ after = c :: rest ∧ Text.isSpace c = false := by
  cases h with
  | @mk delimiter quotes nonempty spelled =>
    refine ⟨delimiter, _, rfl, ?_⟩
    rcases quotes with rfl | rfl <;> decide

end Literals

section Parameters

variable {text domain after spaces : Text}

theorem skipSpaces_split (text : Text) :
    ∃ spaces, text = spaces ++ skipSpaces text ∧ Blank spaces := by
  refine ⟨text.takeWhile Text.isSpace, List.takeWhile_append_dropWhile.symm, fun c m => ?_⟩
  exact List.mem_takeWhile_imp m

theorem skipSpaces_append (blank : Blank spaces) {c : Char} (solid : Text.isSpace c = false)
    (rest : Text) : skipSpaces (spaces ++ c :: rest) = c :: rest := by
  rw [skipSpaces, List.dropWhile_append_of_pos blank, List.dropWhile_cons_of_neg (by simp [solid])]

theorem lastDomain?_sound (found : lastDomain? text = some (domain, after)) :
    ∃ front blanks literal, ')' ∉ front ∧ Blank blanks ∧ Literal domain literal ∧
      text = front ++ ',' :: (blanks ++ (literal ++ ')' :: after)) := by
  induction text with
  | nil => cases found
  | cons c rest ih =>
    unfold lastDomain? at found
    split at found
    · cases found
    · rename_i opened
      split at found
      · rename_i later
        cases found
        obtain ⟨front, blanks, literal, unclosed, blank, named, rfl⟩ := ih later
        have unclosed' : ')' ∉ c :: front := by
          rw [List.mem_cons, not_or]
          exact ⟨fun same => opened same.symm, unclosed⟩
        exact ⟨c :: front, blanks, literal, unclosed', blank, named, rfl⟩
      · split at found
        · rename_i comma
          subst comma
          obtain ⟨blanks, whole, blank⟩ := skipSpaces_split rest
          obtain ⟨literal, named, behind⟩ := closing?_eq_some_iff.1 found
          rw [whole, behind]
          exact ⟨[], blanks, literal, List.not_mem_nil, blank, named, rfl⟩
        · cases found

theorem closing?_skipSpaces {blanks literal : Text} (blank : Blank blanks)
    (named : Literal domain literal) :
    closing? (skipSpaces (blanks ++ (literal ++ ')' :: after))) = some (domain, after) := by
  obtain ⟨c, rest, whole, solid⟩ := named.head (')' :: after)
  rw [whole, skipSpaces_append blank solid, ← whole]
  exact closing?_eq_some_iff.2 ⟨literal, named, rfl⟩

theorem lastDomain?_complete {front blanks literal : Text} (unclosed : ')' ∉ front)
    (blank : Blank blanks) (named : Literal domain literal) :
    (lastDomain? (front ++ ',' :: (blanks ++ (literal ++ ')' :: after)))).isSome = true := by
  induction front with
  | nil =>
    rw [List.nil_append, lastDomain?, if_neg (by decide)]
    split
    · rfl
    · rw [if_pos rfl, closing?_skipSpaces blank named]
      rfl
  | cons c front ih =>
    rw [List.mem_cons, not_or] at unclosed
    obtain ⟨found, later⟩ := Option.isSome_iff_exists.1 (ih unclosed.2)
    rw [List.cons_append, lastDomain?, if_neg (fun same => unclosed.1 same.symm), later]
    rfl

theorem parameters?_sound (found : parameters? text = some (domain, after)) :
    ∃ comma parameters comma' literal, Comma comma ∧ parameters ≠ [] ∧ ')' ∉ parameters ∧
      Comma comma' ∧ Literal domain literal ∧
      text = comma ++ (parameters ++ (comma' ++ (literal ++ ')' :: after))) := by
  obtain ⟨spaces, whole, blank⟩ := skipSpaces_split text
  unfold parameters? at found
  split at found
  · rename_i c rest behind
    split at found
    · cases found
    · rename_i opened
      obtain ⟨front, blanks, literal, unclosed, blank', named, rfl⟩ := lastDomain?_sound found
      have unclosed' : ')' ∉ c :: front := by
        rw [List.mem_cons, not_or]
        exact ⟨fun same => opened same.symm, unclosed⟩
      have separated : Comma ([] ++ ',' :: blanks) := .mk nofun blank'
      refine ⟨spaces ++ [','], c :: front, ',' :: blanks, literal, .mk blank nofun,
        List.cons_ne_nil _ _, unclosed', separated, named, ?_⟩
      rw [whole, behind]
      simp
  · cases found

theorem Blank.unclosed {text : Text} (blank : Blank text) : ')' ∉ text := fun mem => by
  cases blank _ mem

theorem Comma.unclosed {comma : Text} (h : Comma comma) : ')' ∉ comma := by
  cases h with
  | mk blank blank' => simp [blank.unclosed, blank'.unclosed]

/-- A count is read as a part of the parameters. -/
theorem Count.split {count comma : Text} (h : Count count) (separated : Comma comma) :
    ∃ spaces front, Blank spaces ∧ ')' ∉ front ∧ count ++ comma = spaces ++ ',' :: front := by
  cases h with
  | absent =>
    cases separated with
    | mk blank blank' => exact ⟨_, _, blank, blank'.unclosed, rfl⟩
  | @present first digits separated' nonempty decimal =>
    have closes : Text.isDecimalDigit ')' = false := by decide
    have unclosed : ')' ∉ digits := by
      intro mem
      rw [decimal _ mem] at closes
      cases closes
    cases separated' with
    | @mk before behind blank blank' =>
      refine ⟨before, behind ++ (digits ++ comma), blank, ?_, by simp⟩
      simp [blank'.unclosed, unclosed, separated.unclosed]

theorem parameters?_eq_lastDomain? {count comma parameters comma' literal : Text}
    (counted : Count count) (separated : Comma comma) (nonempty : parameters ≠ [])
    (unclosed : ')' ∉ parameters) (separated' : Comma comma') (after : Text) :
    ∃ front blanks, ')' ∉ front ∧ Blank blanks ∧
      parameters? (count ++ (comma ++ (parameters ++ (comma' ++ (literal ++ ')' :: after))))) =
        lastDomain? (front ++ ',' :: (blanks ++ (literal ++ ')' :: after))) := by
  obtain ⟨spaces, front, blank, open', split⟩ := counted.split separated
  cases separated' with
  | @mk before behind blank' blank'' =>
    obtain ⟨c, inner, whole⟩ : ∃ c inner, front ++ (parameters ++ before) = c :: inner :=
      List.exists_cons_of_ne_nil (by simp [nonempty])
    have unclosed' : ')' ∉ c :: inner := by
      rw [← whole]
      simp [open', unclosed, blank'.unclosed]
    rw [List.mem_cons, not_or] at unclosed'
    have text : count ++ (comma ++ (parameters ++ ((before ++ ',' :: behind) ++
        (literal ++ ')' :: after)))) =
          spaces ++ ',' :: c :: (inner ++ ',' :: (behind ++ (literal ++ ')' :: after))) := by
      calc _ = (count ++ comma) ++ ((parameters ++ before) ++
            ',' :: (behind ++ (literal ++ ')' :: after))) := by simp
        _ = spaces ++ ',' :: ((front ++ (parameters ++ before)) ++
            ',' :: (behind ++ (literal ++ ')' :: after))) := by
          rw [split]
          simp
        _ = _ := by rw [whole, List.cons_append]
    refine ⟨inner, behind, unclosed'.2, blank'', ?_⟩
    rw [text, parameters?, skipSpaces_append blank (by decide)]
    exact if_neg fun same => unclosed'.1 same.symm

theorem parameters?_complete {count comma parameters comma' literal : Text} (counted : Count count)
    (separated : Comma comma) (nonempty : parameters ≠ []) (unclosed : ')' ∉ parameters)
    (separated' : Comma comma') (named : Literal domain literal) (after : Text) :
    (parameters? (count ++ (comma ++ (parameters ++ (comma' ++ (literal ++ ')' :: after)))))).isSome =
      true := by
  obtain ⟨front, blanks, open', blank, same⟩ :=
    parameters?_eq_lastDomain? counted separated nonempty unclosed separated' after
  rw [same]
  exact lastDomain?_complete open' blank named

end Parameters

section Calls

variable {config : Config} {text after : Text} {found : Found}

theorem arguments?_sound (matched : arguments? text = some (found, after)) :
    ∃ arguments, Arguments found arguments ∧ text = arguments ++ ')' :: after := by
  unfold arguments? at matched
  split at matched
  · cases matched
  · rename_i message rest read
    obtain ⟨literal, quoted, rfl⟩ := quoted?_eq_some_iff.1 read
    split at matched
    · rename_i domain behind read'
      cases matched
      obtain ⟨comma, parameters, comma', literal', separated, nonempty, unclosed, separated', named,
        rfl⟩ := parameters?_sound read'
      exact ⟨_, .domain quoted .absent separated nonempty unclosed separated' named, by simp⟩
    · split at matched
      · cases matched
        exact ⟨literal, .message quoted, rfl⟩
      · cases matched

theorem arguments?_domain {message literal domain rest : Text} (quoted : Literal message literal)
    (read : parameters? rest = some (domain, after)) :
    arguments? (literal ++ rest) = some (⟨message, some domain⟩, after) := by
  rw [arguments?, quoted?_eq_some_iff.2 ⟨_, quoted, rfl⟩]
  dsimp only
  rw [read]

theorem arguments?_complete {arguments : Text} (listed : Arguments found arguments) (after : Text) :
    (arguments? (arguments ++ ')' :: after)).isSome = true := by
  cases listed with
  | message quoted =>
    rw [arguments?, quoted?_eq_some_iff.2 ⟨_, quoted, rfl⟩]
    dsimp only
    split <;> rfl
  | domain quoted counted separated nonempty unclosed separated' named =>
    obtain ⟨⟨domain', behind⟩, read⟩ := Option.isSome_iff_exists.1
      (parameters?_complete counted separated nonempty unclosed separated' named after)
    simp only [List.append_assoc, arguments?_domain quoted read, Option.isSome_some]

theorem mem_alternatives_iff {names : List Text} {name : Text} (some : ∃ name ∈ names, name ≠ []) :
    name ∈ alternatives names ↔ name ∈ names ∧ name ≠ [] := by
  obtain ⟨other, mem, nonempty⟩ := some
  have kept : other ∈ names.filter fun name => !name.isEmpty := by
    simp [mem, nonempty]
  unfold alternatives
  split
  · rename_i none
    rw [none] at kept
    cases kept
  · simp

theorem exists_of_call? {objects methods : List Text}
    (matched : call? objects methods text = some (found, after)) :
    ∃ object ∈ objects, ∃ method ∈ methods, ∃ rest,
      text = object ++ '.' :: (method ++ '(' :: rest) ∧ arguments? rest = some (found, after) := by
  obtain ⟨object, object_mem, first⟩ := List.exists_of_findSome?_eq_some matched
  unfold afterObject? at first
  split at first
  · rename_i behind dropped
    obtain ⟨method, method_mem, second⟩ := List.exists_of_findSome?_eq_some first
    unfold afterMethod? at second
    split at second
    · rename_i rest dropped'
      have whole := Text.dropBeginning?_eq_some_iff.1 dropped
      rw [Text.dropBeginning?_eq_some_iff.1 dropped'] at whole
      exact ⟨object, object_mem, method, method_mem, rest, whole, second⟩
    · cases second
  · cases first

theorem call?_sound (valid : config.Valid)
    (matched : call? (alternatives config.translatorObjects) (alternatives config.translatorMethods)
      text = some (found, after)) :
    ∃ call, CallText config found call ∧ text = call ++ after := by
  obtain ⟨object, mem, method, mem', rest, whole, read⟩ := exists_of_call? matched
  obtain ⟨arguments, listed, rfl⟩ := arguments?_sound read
  obtain ⟨object_mem, object_ne⟩ := (mem_alternatives_iff valid.object).1 mem
  obtain ⟨method_mem, method_ne⟩ := (mem_alternatives_iff valid.method).1 mem'
  exact ⟨_, .mk object_mem object_ne method_mem method_ne listed, by simp [whole]⟩

theorem call?_complete (valid : config.Valid) {call : Text} (h : CallText config found call)
    (after : Text) :
    (call? (alternatives config.translatorObjects) (alternatives config.translatorMethods)
      (call ++ after)).isSome = true := by
  cases h with
  | @mk object method arguments object_mem object_ne method_mem method_ne listed =>
    have whole : (object ++ '.' :: (method ++ '(' :: (arguments ++ [')']))) ++ after =
        object ++ '.' :: (method ++ '(' :: (arguments ++ ')' :: after)) := by
      simp
    rw [whole, call?, List.findSome?_isSome_iff]
    refine ⟨object, (mem_alternatives_iff valid.object).2 ⟨object_mem, object_ne⟩, ?_⟩
    rw [afterObject?, Text.dropBeginning?_eq_some_iff.2 rfl]
    change (List.findSome? (fun method => afterMethod? method _) _).isSome = true
    rw [List.findSome?_isSome_iff]
    refine ⟨method, (mem_alternatives_iff valid.method).2 ⟨method_mem, method_ne⟩, ?_⟩
    rw [afterMethod?, Text.dropBeginning?_eq_some_iff.2 rfl]
    exact arguments?_complete listed after

theorem CallText.pos {call : Text} (h : CallText config found call) : 0 < call.length := by
  cases h with
  | mk =>
    rw [List.length_append, List.length_cons]
    omega

end Calls

end MessageHarvest.Call
