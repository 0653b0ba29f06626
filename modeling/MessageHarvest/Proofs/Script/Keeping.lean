import MessageHarvest.Proofs.Script.Following
import MessageHarvest.Script.Binding
import Mathlib.Logic.Basic

/-!
Parsers that leave an early token behind. The classes say from which tokens they do so; what a parser
needs of its parts is found by instances.
-/

namespace MessageHarvest.Script

@[reducible] def Mark.isInner : Mark → Bool
  | .comma => false
  | _ => true

/-- Whatever follows such a token is early: it is neither a comma, nor the literal at the end, nor
unreadable. -/
@[reducible] def Token.isInner : Token → Bool
  | .mark punctuator => punctuator.isInner
  | .string _ => false
  | .broken _ => false
  | _ => true

namespace Ending

variable {ending : Ending}

theorem clear_after {lexeme : Lexeme} (stands : ending.Stands lexeme)
    (inner : lexeme.token.isInner = true) : ending.Clear lexeme.after.rest := by
  cases stands with
  | early early =>
    cases early with
    | read start after => exact after
    | comma token => simp [token] at inner
    | broken token => simp [token] at inner
  | late late =>
    cases late with
    | literal token => simp [token] at inner
    | close token start after =>
      rw [after]
      exact .nil

end Ending

namespace Parse

variable {ending : Ending} {α β : Type}

theorem run_bind {parser : Parse α} {next : α → Parse β} {scope : Scope} {start state : State}
    {value : β} (h : (parser >>= next).run scope start = .done value state) :
    ∃ first middle, parser.run scope start = .done first middle ∧
      (next first).run scope middle = .done value state := by
  change (chain parser next).run scope start = .done value state at h
  unfold chain at h
  dsimp only at h
  split at h
  · rename_i first middle ran
    exact ⟨first, middle, ran, h⟩
  · cases h

theorem reaches_of_done {parser : Parse α} {scope : Scope} {start state : State} {value : α}
    (h : parser.run scope start = .done value state) : start.Reaches state := by
  have reaches := parser.forward scope start
  rw [h] at reaches
  exact reaches

/-- Started at a token with `P` and done without a fault, the parser leaves its value and the current
token with `Q`. -/
def Leads (ending : Ending) (P : Lexeme → Prop) (parser : Parse α) (Q : α → Lexeme → Prop) : Prop :=
  ∀ scope start value state, parser.run scope start = .done value state → state.notes = [] →
    ending.Stands start.current → P start.current → Q value state.current

theorem Leads.bind {P : Lexeme → Prop} {R : α → Lexeme → Prop} {Q : β → Lexeme → Prop}
    {parser : Parse α} {next : α → Parse β} (first : Leads ending P parser R)
    (second : ∀ value, Leads ending (R value) (next value) Q) :
    Leads ending P (parser >>= next) Q := by
  intro scope start value state done faultless stands here
  obtain ⟨x, middle, done₁, done₂⟩ := run_bind done
  have faultless₁ := (reaches_of_done done₂).faultless_start faultless
  have stands₁ := (reaches_of_done done₁).stands stands faultless₁
  exact second x scope middle value state done₂ faultless stands₁
    (first scope start x middle done₁ faultless₁ stands here)

theorem Leads.weaken {P P' : Lexeme → Prop} {Q Q' : α → Lexeme → Prop} {parser : Parse α}
    (h : Leads ending P parser Q) (before : ∀ lexeme, P' lexeme → P lexeme)
    (after : ∀ value lexeme, Q value lexeme → Q' value lexeme) : Leads ending P' parser Q' :=
  fun scope start value state done faultless stands here =>
    after value state.current
      (h scope start value state done faultless stands (before start.current here))

theorem leads_stands (parser : Parse α) :
    Leads ending (fun _ => True) parser fun _ => ending.Stands := by
  intro scope start value state done faultless stands _
  exact (reaches_of_done done).stands stands faultless

variable (ending)

class Keeps (parser : Parse α) : Prop where
  leads : Leads ending ending.Early parser fun _ => ending.Early

class Closes (parser : Parse α) : Prop where
  leads : Leads ending (fun _ => True) parser fun _ => ending.Early

class KeepsAt (token : Token) (parser : Parse α) : Prop where
  leads : Leads ending (fun lexeme => ending.Early lexeme ∧ lexeme.token = token) parser
    fun _ => ending.Early

class ClosesAt (token : Token) (parser : Parse α) : Prop where
  leads : Leads ending (fun lexeme => lexeme.token = token) parser fun _ => ending.Early

/-- Done without a fault, the parser has read no token. -/
class Stays (parser : Parse α) : Prop where
  same : ∀ scope start value state, parser.run scope start = .done value state →
    state.notes = [] → state.current = start.current

variable {ending}

theorem leads_of_stays (P : Lexeme → Prop) (parser : Parse α) [Stays parser] :
    Leads ending P parser fun _ => P := by
  intro scope start value state done faultless _ here
  rw [Stays.same scope start value state done faultless]
  exact here

class Faulty (parser : Parse α) : Prop where
  notes : ∀ scope start value state, parser.run scope start = .done value state → state.notes ≠ []

section Steps

variable {parser : Parse α} {next : α → Parse β} {token : Token}

instance [Closes ending parser] : Keeps ending parser :=
  ⟨Closes.leads.weaken (fun _ _ => trivial) fun _ _ => id⟩

instance [Closes ending parser] : ClosesAt ending token parser :=
  ⟨Closes.leads.weaken (fun _ _ => trivial) fun _ _ => id⟩

instance [Keeps ending parser] : KeepsAt ending token parser :=
  ⟨Keeps.leads.weaken (fun _ => And.left) fun _ _ => id⟩

instance [ClosesAt ending token parser] : KeepsAt ending token parser :=
  ⟨ClosesAt.leads.weaken (fun _ => And.right) fun _ _ => id⟩

instance [Stays parser] : Keeps ending parser := ⟨leads_of_stays _ parser⟩

instance [Faulty parser] : Closes ending parser :=
  ⟨fun scope start value state done faultless =>
    absurd faultless (Faulty.notes scope start value state done)⟩

instance [Faulty parser] : Stays parser :=
  ⟨fun scope start value state done faultless =>
    absurd faultless (Faulty.notes scope start value state done)⟩

instance Keeps.bind [Keeps ending parser] [∀ value, Keeps ending (next value)] :
    Keeps ending (parser >>= next) :=
  ⟨Keeps.leads.bind fun _ => Keeps.leads⟩

instance Closes.last [∀ value, Closes ending (next value)] : Closes ending (parser >>= next) :=
  ⟨(leads_stands parser).bind fun _ => Closes.leads.weaken (fun _ _ => trivial) fun _ _ => id⟩

instance Closes.bind [Closes ending parser] [∀ value, Keeps ending (next value)] :
    Closes ending (parser >>= next) :=
  ⟨Closes.leads.bind fun _ => Keeps.leads⟩

instance KeepsAt.bind [KeepsAt ending token parser] [∀ value, Keeps ending (next value)] :
    KeepsAt ending token (parser >>= next) :=
  ⟨KeepsAt.leads.bind fun _ => Keeps.leads⟩

instance ClosesAt.bind [ClosesAt ending token parser] [∀ value, Keeps ending (next value)] :
    ClosesAt ending token (parser >>= next) :=
  ⟨ClosesAt.leads.bind fun _ => Keeps.leads⟩

instance KeepsAt.after [Stays parser] [∀ value, KeepsAt ending token (next value)] :
    KeepsAt ending token (parser >>= next) :=
  ⟨(leads_of_stays _ parser).bind fun _ => KeepsAt.leads⟩

instance ClosesAt.after [Stays parser] [∀ value, ClosesAt ending token (next value)] :
    ClosesAt ending token (parser >>= next) :=
  ⟨(leads_of_stays _ parser).bind fun _ => ClosesAt.leads⟩

instance Stays.bind [Stays parser] [∀ value, Stays (next value)] : Stays (parser >>= next) where
  same scope start value state done faultless := by
    obtain ⟨first, middle, done₁, done₂⟩ := run_bind done
    have faultless₁ := (reaches_of_done done₂).faultless_start faultless
    rw [Stays.same scope middle value state done₂ faultless]
    exact Stays.same scope start first middle done₁ faultless₁

instance Faulty.last [∀ value, Faulty (next value)] : Faulty (parser >>= next) where
  notes scope start value state done := by
    obtain ⟨first, middle, -, done₂⟩ := run_bind done
    exact Faulty.notes scope middle value state done₂

instance [Faulty parser] : Faulty (parser >>= next) where
  notes scope start value state done := by
    obtain ⟨first, middle, done₁, done₂⟩ := run_bind done
    intro faultless
    exact Faulty.notes scope start first middle done₁
      ((reaches_of_done done₂).faultless_start faultless)

end Steps

section Choices

variable {c : Prop} [Decidable c] {p q : Parse α} {token : Token}

instance [Keeps ending p] [Keeps ending q] : Keeps ending (if c then p else q) := by
  split <;> infer_instance

instance [Closes ending p] [Closes ending q] : Closes ending (if c then p else q) := by
  split <;> infer_instance

instance [KeepsAt ending token p] [KeepsAt ending token q] :
    KeepsAt ending token (if c then p else q) := by
  split <;> infer_instance

instance [ClosesAt ending token p] [ClosesAt ending token q] :
    ClosesAt ending token (if c then p else q) := by
  split <;> infer_instance

instance [Stays p] [Stays q] : Stays (if c then p else q) := by
  split <;> infer_instance

end Choices

section Scopes

variable {parser : Parse α} {change : Scope → Scope} {token : Token}

theorem Leads.within {P : Lexeme → Prop} {Q : α → Lexeme → Prop} (change : Scope → Scope)
    (h : Leads ending P parser Q) : Leads ending P (within change parser) Q :=
  fun scope => h (change scope)

instance [Keeps ending parser] : Keeps ending (within change parser) :=
  ⟨Keeps.leads.within change⟩

instance [Closes ending parser] : Closes ending (within change parser) :=
  ⟨Closes.leads.within change⟩

instance [Keeps ending parser] : Keeps ending (withIn parser) :=
  inferInstanceAs (Keeps ending (within _ parser))

end Scopes

section Reading

instance (value : Scope → State → α) : Stays (read value) where
  same scope start result state done _ := by
    cases done
    rfl

instance (value : α) : Stays (pure value : Parse α) := inferInstanceAs (Stays (read _))

instance : Stays scope := inferInstanceAs (Stays (read _))

instance : Stays current := inferInstanceAs (Stays (read _))

instance : Stays token := inferInstanceAs (Stays (read _))

instance : Stays line := inferInstanceAs (Stays (read _))

instance : Stays newline := inferInstanceAs (Stays (read _))

instance : Stays peek := inferInstanceAs (Stays (read _))

theorem leads_token (P : Lexeme → Prop) :
    Leads ending P token fun value lexeme => P lexeme ∧ lexeme.token = value := by
  intro scope start value state done _ _ here
  cases done
  exact ⟨here, rfl⟩

instance Keeps.token {next : Token → Parse α} [∀ value, KeepsAt ending value (next value)] :
    Keeps ending (token >>= next) :=
  ⟨(leads_token _).bind fun _ => KeepsAt.leads⟩

instance Closes.token {next : Token → Parse α} [∀ value, ClosesAt ending value (next value)] :
    Closes ending (token >>= next) :=
  ⟨(leads_token _).bind fun _ =>
    ClosesAt.leads.weaken (fun _ => And.right) fun _ _ => id⟩

end Reading

section Faults

instance (report : Report) : Faulty (record report) where
  notes scope start value state done := by
    cases done
    exact List.cons_ne_nil report start.notes

instance (fault : Fault) (line : Nat) : Faulty (note fault line) := by
  unfold note
  refine @Faulty.last _ _ _ _ fun found => ?_
  dsimp only
  split <;> infer_instance

instance (fault : Fault) : Faulty (noteHere fault) := by
  unfold noteHere
  infer_instance

instance (fault : Fault) (line : Nat) : Faulty (failAt fault line : Parse α) where
  notes scope start value state done := by cases done

instance (fault : Fault) : Faulty (fail fault : Parse α) := by
  unfold fail
  infer_instance

instance (report : Report) : Faulty (restuck report : Parse α) where
  notes scope start value state done := by cases done

instance : Faulty (default : Parse α) where
  notes scope start value state done := by cases done

instance (wanted : Text) : Faulty (failExpected wanted : Parse α) := by
  unfold failExpected
  infer_instance

instance (wanted : Text) : Faulty (failUnexpected wanted : Parse α) := by
  unfold failUnexpected
  infer_instance

end Faults

section Looking

theorem leads_at? (P : Lexeme → Prop) (mark : Mark) :
    Leads ending P (at? mark) fun found lexeme => P lexeme ∧ (found = true → lexeme.token = .mark mark) := by
  intro scope start value state done _ _ here
  cases done
  exact ⟨here, fun found => by simpa using found⟩

instance (mark : Mark) : Stays (at? mark) := by
  unfold at?
  infer_instance

theorem leads_atWord (P : Lexeme → Prop) (word : Text) :
    Leads ending P (atWord word) fun found lexeme =>
      P lexeme ∧ (found = true → lexeme.token = .word word false) := by
  refine (leads_token P).bind fun value => ?_
  split
  · rename_i text escaped
    intro scope start found state done _ _ here
    cases done
    refine ⟨here.1, fun found => ?_⟩
    obtain ⟨rfl, rfl⟩ : text = word ∧ escaped = false := by simpa using found
    exact here.2
  · intro scope start found state done _ _ here
    cases done
    exact ⟨here.1, by simp⟩

instance (word : Text) : Stays (atWord word) := by
  unfold atWord
  refine @Stays.bind _ _ _ _ _ fun value => ?_
  split <;> infer_instance

instance : Stays atEnd := by
  unfold atEnd
  infer_instance

variable {mark : Mark} {word : Text} {here : Token} {p q : Bool → Parse α}

theorem Leads.choose {P : Lexeme → Prop} {Q : α → Lexeme → Prop} {look : Parse Bool} (token : Token)
    (looks : Leads ending P look fun found lexeme => P lexeme ∧ (found = true → lexeme.token = token))
    (yes : ∀ b, Leads ending (fun lexeme => P lexeme ∧ lexeme.token = token) (p b) Q)
    (no : ∀ b, Leads ending P (q b) Q) :
    Leads ending P (look >>= fun b => if b = true then p b else q b) Q := by
  refine looks.bind fun b => ?_
  split
  · rename_i found
    exact (yes b).weaken (fun _ h => ⟨h.1, h.2 found⟩) fun _ _ => id
  · exact (no b).weaken (fun _ => And.left) fun _ _ => id

instance [∀ b, KeepsAt ending (.mark mark) (p b)] [∀ b, Keeps ending (q b)] :
    Keeps ending (at? mark >>= fun b => if b = true then p b else q b) :=
  ⟨Leads.choose _ (leads_at? _ mark) (fun _ => KeepsAt.leads) fun _ => Keeps.leads⟩

instance [∀ b, ClosesAt ending (.mark mark) (p b)] [∀ b, Closes ending (q b)] :
    Closes ending (at? mark >>= fun b => if b = true then p b else q b) :=
  ⟨Leads.choose _ (leads_at? _ mark)
    (fun _ => ClosesAt.leads.weaken (fun _ => And.right) fun _ _ => id) fun _ => Closes.leads⟩

instance [∀ b, KeepsAt ending (.word word false) (p b)] [∀ b, Keeps ending (q b)] :
    Keeps ending (atWord word >>= fun b => if b = true then p b else q b) :=
  ⟨Leads.choose _ (leads_atWord _ word) (fun _ => KeepsAt.leads) fun _ => Keeps.leads⟩

end Looking

section Advancing

instance : Fact (true = true) := ⟨rfl⟩

variable {mark : Mark} {here : Token}

instance [inner : Fact (here.isInner = true)] : ClosesAt ending here advance where
  leads scope start value state done faultless stands token := by
    cases done
    obtain ⟨notes, -⟩ := List.append_eq_nil_iff.1 faultless
    have isInner : start.current.token.isInner = true := by rw [token, inner.out]
    exact Ending.early_next (Ending.clear_after stands isInner) (List.reverse_eq_nil_iff.1 notes)

instance (text : Text) (escaped : Bool) : Fact ((Token.word text escaped).isInner = true) := ⟨rfl⟩

instance (chunk : Chunk) (closed : Bool) : Fact ((Token.template chunk closed).isInner = true) :=
  ⟨rfl⟩

instance (value : Option Text) : KeepsAt ending (.string value) advance where
  leads scope start value state done faultless stands here := by
    cases done
    obtain ⟨notes, -⟩ := List.append_eq_nil_iff.1 faultless
    refine Ending.early_next ?_ (List.reverse_eq_nil_iff.1 notes)
    obtain ⟨early, token⟩ := here
    cases early with
    | read start after => exact after
    | comma comma =>
      rw [token] at comma
      cases comma
    | broken broken =>
      rw [token] at broken
      cases broken

theorem leads_eat [Fact (mark.isInner = true)] :
    Leads ending (fun _ => True) (eat mark) fun eaten lexeme => eaten = true → ending.Early lexeme := by
  unfold eat
  refine Leads.choose _ (leads_at? _ mark) (fun _ => ?_) fun _ => ?_
  · have closes : ClosesAt ending (.mark mark) (advance >>= fun _ => pure true) := inferInstance
    exact closes.leads.weaken (fun _ => And.right) fun _ _ early _ => early
  · intro scope start value state done _ _ _
    cases done
    exact nofun

instance [Fact (mark.isInner = true)] : Keeps ending (eat mark) := by
  unfold eat
  infer_instance

instance {p q : Bool → Parse α} [Fact (mark.isInner = true)] [∀ b, Keeps ending (p b)]
    [∀ b, Closes ending (q b)] :
    Closes ending (eat mark >>= fun b => if b = true then p b else q b) where
  leads := leads_eat.bind fun b => by
    split
    · rename_i eaten
      exact Keeps.leads.weaken (fun _ h => h eaten) fun _ _ => id
    · exact Closes.leads.weaken (fun _ _ => trivial) fun _ _ => id

instance [Fact (mark.isInner = true)] : Closes ending (expect mark) := by
  unfold expect
  infer_instance

theorem leads_eatWord (word : Text) :
    Leads ending (fun _ => True) (eatWord word) fun eaten lexeme =>
      eaten = true → ending.Early lexeme := by
  unfold eatWord
  refine Leads.choose _ (leads_atWord _ word) (fun _ => ?_) fun _ => ?_
  · have closes : ClosesAt ending (.word word false) (advance >>= fun _ => pure true) := inferInstance
    exact closes.leads.weaken (fun _ => And.right) fun _ _ early _ => early
  · intro scope start value state done _ _ _
    cases done
    exact nofun

instance (word : Text) : Keeps ending (eatWord word) := by
  unfold eatWord
  infer_instance

instance {word : Text} {p q : Bool → Parse α} [∀ b, Keeps ending (p b)]
    [∀ b, Closes ending (q b)] :
    Closes ending (eatWord word >>= fun b => if b = true then p b else q b) where
  leads := (leads_eatWord word).bind fun b => by
    split
    · rename_i eaten
      exact Keeps.leads.weaken (fun _ h => h eaten) fun _ _ => id
    · exact Closes.leads.weaken (fun _ _ => trivial) fun _ _ => id

instance (word : Text) : Closes ending (expectWord word) := by
  unfold expectWord
  infer_instance

end Advancing

section Loops

theorem leads_collect {P N : Lexeme → Prop} {step : Parse (Option α)}
    (h : Leads ending P step fun value lexeme =>
      (value = none → N lexeme) ∧ (value ≠ none → P lexeme)) :
    Leads ending P (collect step) fun _ => N := by
  have upTo (n : Nat) : Leads ending P (collectUpTo step n) fun _ => N := by
    induction n with
    | zero =>
      intro scope start value state done
      cases done
    | succ n ih =>
      refine h.bind fun value => ?_
      cases value with
      | none =>
        intro scope start value state done _ _ here
        cases done
        exact here.1 rfl
      | some value =>
        refine Leads.bind ih (fun values => ?_) |>.weaken (fun _ here => here.2 nofun) fun _ _ => id
        intro scope start value state done _ _ here
        cases done
        exact here
  exact Leads.bind (leads_of_stays P scope) fun place => upTo place.budget

instance {step : α → Parse (Option α)} {value : α} [∀ value, Keeps ending (step value)] :
    Keeps ending (grow step value) := by
  have upTo (n : Nat) (value : α) : Keeps ending (growUpTo step n value) := by
    induction n generalizing value with
    | zero => exact inferInstanceAs (Keeps ending (pure value))
    | succ n ih =>
      refine @Keeps.bind _ _ _ _ _ _ fun value => ?_
      split
      · infer_instance
      · exact ih _
  unfold grow
  infer_instance

theorem run_attempt {parser : Parse α} {scope : Scope} {start state : State}
    {value : Except Report α} (h : (attempt parser).run scope start = .done value state) :
    (∃ result, value = .ok result ∧ parser.run scope start = .done result state) ∨
      ∃ report, value = .error report := by
  unfold attempt at h
  dsimp only at h
  split at h
  · rename_i result _ done
    cases h
    exact .inl ⟨result, rfl, done⟩
  · rename_i report _ stuck
    cases h
    exact .inr ⟨report, rfl⟩

/-- A parser that got stuck may have stopped anywhere. -/
instance Keeps.attempt {parser : Parse α} {next : Except Report α → Parse β} [Keeps ending parser]
    [∀ value, Keeps ending (next (.ok value))] [∀ report, Closes ending (next (.error report))] :
    Keeps ending (attempt parser >>= next) where
  leads := by
    have tried : Leads ending ending.Early (Parse.attempt parser)
        fun value lexeme => ∀ result, value = .ok result → ending.Early lexeme := by
      intro scope start value state done faultless stands early result ok
      rcases run_attempt done with ⟨result, -, done⟩ | ⟨report, error⟩
      · exact Keeps.leads scope start result state done faultless stands early
      · rw [ok] at error
        cases error
    refine tried.bind fun value => ?_
    cases value with
    | ok result => exact Keeps.leads.weaken (fun _ h => h result rfl) fun _ _ => id
    | error report => exact Closes.leads.weaken (fun _ _ => trivial) fun _ _ => id

end Loops

end Parse

end MessageHarvest.Script
