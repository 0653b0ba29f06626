import MessageHarvest.Proofs.Call.Grammar
import MessageHarvest.Proofs.Call.Unescape

namespace MessageHarvest.Call

inductive Quoted (body after : Text) : Text → Prop
  | mk {delimiter : Char} (quotes : delimiter = '\'' ∨ delimiter = '"')
      (unquoted : delimiter ∉ body) : Quoted body after (delimiter :: (body ++ delimiter :: after))

theorem Quoted.suffix {body after text : Text} (h : Quoted body after text) : after <:+ text := by
  cases h with
  | @mk delimiter quotes unquoted => exact ⟨delimiter :: (body ++ [delimiter]), by simp⟩

theorem Spelled.unquoted {delimiter : Char} {body : Text} (h : Spelled delimiter body)
    (unescaped : '\\' ∉ body) : delimiter ∉ body := by
  induction h with
  | nil => exact List.not_mem_nil
  | plain unquoted _ _ ih =>
    rw [List.mem_cons, not_or] at unescaped
    rw [List.mem_cons, not_or]
    exact ⟨fun same => unquoted same.symm, ih unescaped.2⟩
  | pair => simp at unescaped

theorem Literal.quoted {body literal : Text} (h : Literal body literal) (unescaped : '\\' ∉ body)
    (after : Text) : Quoted body after (literal ++ after) := by
  cases h with
  | @mk delimiter quotes nonempty spelled =>
    have whole : delimiter :: (body ++ [delimiter]) ++ after =
        delimiter :: (body ++ delimiter :: after) := by
      simp
    rw [whole]
    exact .mk quotes (spelled.unquoted unescaped)

theorem quoted?_eq_some {text body after : Text} (found : quoted? text = some (body, after))
    (unescaped : '\\' ∉ body) : Quoted body after text := by
  obtain ⟨literal, quoted, rfl⟩ := quoted?_eq_some_iff.1 found
  exact quoted.quoted unescaped after

inductive LastDomain (domain after : Text) : Text → Prop
  | mk {front blanks literal : Text} (unclosed : ')' ∉ front)
      (blank : ∀ c ∈ blanks, Text.isSpace c = true) (quoted : Quoted domain (')' :: after) literal) :
      LastDomain domain after (front ++ ',' :: (blanks ++ literal))

inductive Parameters (domain after : Text) : Text → Prop
  | mk {spaces rest : Text} (blank : ∀ c ∈ spaces, Text.isSpace c = true)
      (last : '\\' ∉ domain → LastDomain domain after rest) :
      Parameters domain after (spaces ++ ',' :: rest)

theorem parameters?_eq_some {text domain after : Text}
    (found : parameters? text = some (domain, after)) : Parameters domain after text := by
  obtain ⟨comma, parameters, comma', literal, separated, -, unclosed, separated', named, rfl⟩ :=
    parameters?_sound found
  obtain @⟨before, behind, blank, blank'⟩ := separated
  obtain @⟨front, blanks, spaces, spaces'⟩ := separated'
  have unclosed' : ')' ∉ behind ++ (parameters ++ front) := by
    simp [blank'.unclosed, unclosed, spaces.unclosed]
  have whole : before ++ ',' :: behind ++ (parameters ++ (front ++ ',' :: blanks ++
      (literal ++ ')' :: after))) = before ++ ',' :: ((behind ++ (parameters ++ front)) ++
        ',' :: (blanks ++ (literal ++ ')' :: after))) := by
    simp
  rw [whole]
  exact .mk blank fun unescaped => .mk unclosed' spaces' (named.quoted unescaped _)

inductive Listed : Found → Text → Text → Prop
  | alone {message after text : Text} (quoted : Quoted message (')' :: after) text) :
      Listed ⟨message, none⟩ after text
  | domain {message domain after rest text : Text} (quoted : Quoted message rest text)
      (parameters : Parameters domain after rest) : Listed ⟨message, some domain⟩ after text

theorem arguments?_eq_some {text after : Text} {found : Found}
    (matched : arguments? text = some (found, after)) (unescaped : '\\' ∉ found.message) :
    Listed found after text := by
  unfold arguments? at matched
  split at matched
  · cases matched
  · rename_i message rest read
    split at matched
    · rename_i domain behind read'
      cases matched
      exact .domain (quoted?_eq_some read unescaped) (parameters?_eq_some read')
    · split at matched
      · cases matched
        exact .alone (quoted?_eq_some read unescaped)
      · cases matched

theorem mem_alternatives {names : List Text} {name : Text} (h : name ∈ alternatives names) :
    name ∈ names ∨ name = [] := by
  unfold alternatives at h
  split at h
  · exact .inr (List.mem_singleton.1 h)
  · exact .inl (List.mem_filter.1 h).1

theorem unopened_alternatives {names : List Text} (unopened : ∀ name ∈ names, '(' ∉ name) :
    ∀ name ∈ alternatives names, '(' ∉ name := by
  intro name mem
  rcases mem_alternatives mem with mem | rfl
  · exact unopened name mem
  · exact List.not_mem_nil

theorem eq_behind_first {c : Char} {head head' rest rest' : Text} (unseen : c ∉ head)
    (unseen' : c ∉ head') (same : head ++ c :: rest = head' ++ c :: rest') : rest = rest' := by
  induction head generalizing head' with
  | nil =>
    cases head' with
    | nil => exact (List.cons.inj same).2
    | cons d head' =>
      obtain ⟨rfl, -⟩ := List.cons.inj same
      simp at unseen'
  | cons d head ih =>
    cases head' with
    | nil =>
      obtain ⟨rfl, -⟩ := List.cons.inj same
      simp at unseen
    | cons e head' =>
      rw [List.mem_cons, not_or] at unseen unseen'
      exact ih unseen.2 unseen'.2 (List.cons.inj same).2

theorem call?_eq_some {objects methods : List Text} {head rest after : Text} {found : Found}
    (objectNames : ∀ name ∈ objects, '(' ∉ name) (methodNames : ∀ name ∈ methods, '(' ∉ name)
    (unopened : '(' ∉ head)
    (matched : call? objects methods (head ++ '(' :: rest) = some (found, after)) :
    arguments? rest = some (found, after) := by
  obtain ⟨object, object_mem, method, method_mem, rest', whole, read⟩ := exists_of_call? matched
  have unopened' : '(' ∉ object ++ '.' :: method := by
    simp [objectNames object object_mem, methodNames method method_mem]
  have same : head ++ '(' :: rest = (object ++ '.' :: method) ++ '(' :: rest' := by
    rw [whole, List.append_assoc, List.cons_append]
  rw [eq_behind_first unopened unopened' same]
  exact read

theorem unescape_plain {body : Text} (unescaped : '\\' ∉ body) : unescape body = body := by
  have whole := unescape_append unescaped []
  rw [List.append_nil] at whole
  exact whole.trans (List.append_nil body)

end MessageHarvest.Call
