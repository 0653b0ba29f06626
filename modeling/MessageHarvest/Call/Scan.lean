import MessageHarvest.Call.Unescape
import MessageHarvest.Config.Basic
import MessageHarvest.Message.Record
import MessageHarvest.Text.Digit

/-!
Finding call sites in a text that is no valid script.

A call is an object and a method with a dot between them, and in parentheses a quoted message that is
alone or followed by parameters and a quoted domain. The parameters hold no closing parenthesis; of
several ways to divide them from the domain the one with the longest parameters is taken. A count
before the parameters needs no rule of its own: it may as well be part of them.
-/

namespace MessageHarvest.Call

/-- The bodies of the literals of a call, as they are written. -/
structure Found where
  message : Text
  domain : Option Text
  deriving Repr, DecidableEq

/-- The rest of a quoted literal: its body, and what follows its quote. Every backslash takes the
character after it along. -/
def quotedRest? (delimiter : Char) : Text → Option (Text × Text)
  | [] => none
  | ['\\'] => none
  | '\\' :: c :: rest =>
      (quotedRest? delimiter rest).map fun (body, after) => ('\\' :: c :: body, after)
  | c :: rest =>
      if c = delimiter then some ([], rest)
      else (quotedRest? delimiter rest).map fun (body, after) => (c :: body, after)

def quoted? : Text → Option (Text × Text)
  | [] => none
  | c :: rest =>
      if c = '\'' || c = '"' then
        match quotedRest? c rest with
        | some (first :: body, after) => some (first :: body, after)
        | _ => none
      else none

def skipSpaces (text : Text) : Text := text.dropWhile Text.isSpace

def closing? (text : Text) : Option (Text × Text) :=
  match quoted? text with
  | some (body, ')' :: after) => some (body, after)
  | _ => none

/-- The last comma before a closing parenthesis that only a domain follows. -/
def lastDomain? : Text → Option (Text × Text)
  | [] => none
  | c :: rest =>
      if c = ')' then none
      else match lastDomain? rest with
        | some found => some found
        | none => if c = ',' then closing? (skipSpaces rest) else none

def parameters? (text : Text) : Option (Text × Text) :=
  match skipSpaces text with
  | ',' :: c :: rest => if c = ')' then none else lastDomain? rest
  | _ => none

def arguments? (text : Text) : Option (Found × Text) :=
  match quoted? text with
  | none => none
  | some (message, rest) =>
      match parameters? rest with
      | some (domain, after) => some (⟨message, some domain⟩, after)
      | none =>
          match rest with
          | ')' :: after => some (⟨message, none⟩, after)
          | _ => none

/-- Names to look for. Empty ones are left out; where no other is left, the empty name stands. -/
def alternatives (names : List Text) : List Text :=
  match names.filter (fun name => !name.isEmpty) with
  | [] => [[]]
  | names => names

def afterMethod? (method text : Text) : Option (Found × Text) :=
  match Text.dropBeginning? method text with
  | some ('(' :: rest) => arguments? rest
  | _ => none

def afterObject? (methods : List Text) (object text : Text) : Option (Found × Text) :=
  match Text.dropBeginning? object text with
  | some ('.' :: rest) => methods.findSome? (fun method => afterMethod? method rest)
  | _ => none

/-- A call at the front of a text, and what follows it. Names that come earlier are preferred. -/
def call? (objects methods : List Text) (text : Text) : Option (Found × Text) :=
  objects.findSome? (fun object => afterObject? methods object text)

/-- All calls, from left to right and without overlaps; `skip` characters belong to a call that has
been found already. -/
def scanFrom (objects methods : List Text) : (skip : Nat) → Text → List Found
  | _, [] => []
  | skip + 1, _ :: rest => scanFrom objects methods skip rest
  | 0, c :: rest =>
      match call? objects methods (c :: rest) with
      | some (found, after) =>
          found :: scanFrom objects methods (rest.length - after.length) rest
      | none => scanFrom objects methods 0 rest

def scan (config : Config) (source : Text) : List Found :=
  scanFrom (alternatives config.translatorObjects) (alternatives config.translatorMethods) 0 source

def record (config : Config) (file : Text) (found : Found) : MessageRecord where
  message := unescape found.message
  domain := (found.domain.map unescape).getD config.defaultDomain
  file := file
  line := none

def records (config : Config) (source file : Text) : List MessageRecord :=
  (scan config source).map (record config file)

end MessageHarvest.Call
