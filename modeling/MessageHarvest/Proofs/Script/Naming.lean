import MessageHarvest.Proofs.Script.Keeping
import MessageHarvest.Proofs.Script.Position
import MessageHarvest.Script.Statement

/-!
Names that are not empty. No word that is cut from a source is empty, and a parser that is started at
a token so cut makes values in which no name is empty. The class says of a parser what it makes; what
it needs of its parts is found by instances.
-/

namespace MessageHarvest.Script

class Naming (α : Type) where
  Named : α → Prop

export Naming (Named)

instance : Naming Text := ⟨(· ≠ [])⟩

instance : Naming Token where
  Named
    | .word text _ => Named text
    | _ => True

namespace WordReading

theorem length_continueFrom {fuel : Nat} {before text name after : Text} {escaped escaped' : Bool}
    (read : continueFrom fuel before escaped text = .word name escaped' after) :
    before.length ≤ name.length := by
  induction fuel generalizing before escaped text with
  | zero =>
    cases read
    exact (List.length_reverse ..).ge
  | succ fuel ih =>
    unfold continueFrom at read
    split at read
    · cases read
      exact (List.length_reverse ..).ge
    · split at read
      · split at read
        · exact Nat.le_of_succ_le (ih read)
        · cases read
      · cases read
      · cases read
    · cases read
    · split at read
      · exact Nat.le_of_succ_le (ih read)
      · cases read
        exact (List.length_reverse ..).ge

theorem named_ofText {c : Char} {text name after : Text} {escaped : Bool}
    (first : c = '\\' ∨ Text.startsIdentifier c = true)
    (read : ofText (c :: text) = .word name escaped after) : Named name := by
  suffices longer : 0 < name.length from List.ne_nil_of_length_pos longer
  generalize whole : c :: text = source at read
  unfold ofText continueFrom at read
  split at read
  · cases whole
  · split at read
    · split at read
      · exact length_continueFrom read
      · cases read
    · cases read
    · cases read
  · cases read
  · rename_i d rest _ backslash
    obtain ⟨rfl, rfl⟩ := List.cons.inj whole
    split at read
    · exact length_continueFrom read
    · rename_i other
      rcases first with rfl | starts
      · exact absurd rfl backslash
      · exact absurd starts other

end WordReading

namespace Cut

theorem named_string (delimiter : Char) (start : Cursor) : Named (string delimiter start).token := by
  unfold string
  split <;> trivial

theorem named_template (start : Cursor) : Named (template start).token := by
  unfold template
  split <;> trivial

theorem named_numeral (start : Cursor) : Named (numeral start).token := by
  unfold numeral
  dsimp only
  split <;> trivial

theorem named_word {c : Char} {rest : Text} {start : Cursor} (whole : start.rest = c :: rest)
    (first : c = '\\' ∨ Text.startsIdentifier c = true) : Named (word start).token := by
  unfold word
  rw [whole]
  split
  · rename_i read
    split
    · trivial
    · exact WordReading.named_ofText first read
  · trivial

theorem named_mark (c : Char) (start : Cursor) : Named (mark c start).token := by
  unfold mark
  split <;> trivial

theorem named_ofCursor (start : Cursor) : Named (ofCursor start).token := by
  unfold ofCursor
  split
  · trivial
  · rename_i c rest whole
    split
    · exact named_string c start
    split
    · exact named_template start
    split
    · exact named_numeral start
    split
    · rename_i first
      rw [Bool.or_eq_true, decide_eq_true_eq] at first
      exact named_word whole first
    · exact named_mark c start

end Cut

namespace Lexeme

theorem named_afterGap (gap : Gap) : Named (afterGap gap).token := Cut.named_ofCursor gap.start

theorem named_next (cursor : Cursor) : Named (next cursor).token := named_afterGap _

theorem named_first (source : Text) : Named (first source).token := by
  unfold first
  split <;> exact named_afterGap _

/-- Between tags no token is a word. -/
theorem named_markupLexeme (start : Cursor) : Named (markupLexeme start).token := by
  unfold markupLexeme
  split <;> trivial

theorem named_markupValue (cursor : Cursor) : Named (markupValue cursor).token := by
  unfold markupValue
  dsimp only
  split
  · split
    · split <;> trivial
    · exact named_next cursor
  · exact named_next cursor

theorem Follows.named {lexeme next : Lexeme} (follows : lexeme.Follows next) : Named next.token := by
  cases follows with
  | next => exact named_next _
  | afterRegexp => exact named_next _
  | brokenRegexp => trivial
  | templateChunk => exact Cut.named_template _
  | firstGreater => trivial
  | markup => exact named_markupLexeme _
  | markupWord => exact named_next _
  | markupValue => exact named_markupValue _

end Lexeme

theorem State.Reaches.named {start state : State} (reaches : start.Reaches state)
    (named : Named start.current.token) : Named state.current.token := by
  induction reaches with
  | refl => exact named
  | record _ _ ih => exact ih
  | replace _ follows => exact follows.named
  | enter _ follows => exact follows.named

section Values

@[reducible] def Node.NamedItself : Node → Prop
  | .identifier _ name => Named name
  | .member _ _ property => Named property
  | _ => True

instance : Naming Node :=
  ⟨fun node => ∀ position part, node.at? position = some part → part.NamedItself⟩

variable {α β : Type} [Naming α] [Naming β]

instance : Naming (List α) := ⟨fun values => ∀ value ∈ values, Named value⟩

instance : Naming (Option α) := ⟨fun found => ∀ value, found = some value → Named value⟩

instance {ε : Type} : Naming (Except ε α) := ⟨fun found => ∀ value, found = .ok value → Named value⟩

instance : Naming Key where
  Named
    | .plain name => Named name
    | .computed node => Named node
    | _ => True

instance : Naming Parse.BindingItem := ⟨fun item => Named item.node⟩

instance : Naming Member := ⟨fun member => Named member.node⟩

instance : Naming Parse.Declarator := ⟨fun declarator => Named declarator.node⟩

instance : Naming Parse.LoopHead where
  Named
    | .counted initial test step => Named initial ∧ Named test ∧ Named step
    | .members left right _ => Named left ∧ Named right

instance : Naming (α × Option Nat) := ⟨fun item => Named item.1⟩

instance : Naming (α × Bool) := ⟨fun found => Named found.1⟩

instance : Naming (List (Option Text) × List Node × Bool) := ⟨fun read => Named read.2.1⟩

instance fact_true : Fact True := ⟨trivial⟩

instance (value : { value : α // Named value }) : Fact (Named value.val) := ⟨value.property⟩

theorem named_node_iff {node : Node} : Named node ↔ node.NamedItself ∧ Named node.fields := by
  constructor
  · intro named
    refine ⟨named [] node node.at?_nil, fun field mem position part found => ?_⟩
    obtain ⟨i, at_i⟩ := List.mem_iff_getElem?.1 mem
    exact named (i :: position) part (by rw [Node.at?_cons, at_i]; exact found)
  · rintro ⟨itself, inside⟩ position part found
    cases position with
    | nil =>
      rw [Node.at?_nil] at found
      exact Option.some.inj found ▸ itself
    | cons i position =>
      rw [Node.at?_cons] at found
      obtain ⟨field, at_i, below⟩ := Option.bind_eq_some_iff.1 found
      exact inside field (List.mem_of_getElem? at_i) position part below

variable {values others : List α} {value : α}

instance (priority := low) {node : Node} [itself : Fact node.NamedItself]
    [inside : Fact (Named node.fields)] : Fact (Named node) :=
  ⟨named_node_iff.2 ⟨itself.out, inside.out⟩⟩

instance : Fact (Named ([] : List α)) := ⟨nofun⟩

instance [first : Fact (Named value)] [rest : Fact (Named values)] : Fact (Named (value :: values)) :=
  ⟨List.forall_mem_cons.2 ⟨first.out, rest.out⟩⟩

instance [first : Fact (Named values)] [last : Fact (Named others)] :
    Fact (Named (values ++ others)) :=
  ⟨List.forall_mem_append.2 ⟨first.out, last.out⟩⟩

instance {f : α → List β} [all : Fact (Named values)]
    [maps : ∀ value : { value : α // Named value }, Fact (Named (f value.val))] :
    Fact (Named (values.flatMap f)) :=
  ⟨fun value mem => by
    obtain ⟨source, held, inside⟩ := List.mem_flatMap.1 mem
    exact (maps ⟨source, all.out source held⟩).out value inside⟩

instance {f : α → β} [all : Fact (Named values)]
    [maps : ∀ value : { value : α // Named value }, Fact (Named (f value.val))] :
    Fact (Named (values.map f)) :=
  ⟨fun value mem => by
    obtain ⟨source, held, rfl⟩ := List.mem_map.1 mem
    exact (maps ⟨source, all.out source held⟩).out⟩

instance : Fact (Named (none : Option α)) := ⟨nofun⟩

instance [held : Fact (Named value)] : Fact (Named (some value)) :=
  ⟨fun _ same => Option.some.inj same ▸ held.out⟩

instance {found : Option α} [held : Fact (Named found)] : Fact (Named found.toList) :=
  ⟨fun value mem => held.out value (Option.mem_toList.1 mem)⟩

instance {c : Prop} [Decidable c] {other : α} [yes : Fact (Named value)] [no : Fact (Named other)] :
    Fact (Named (if c then value else other)) := by
  split
  · exact yes
  · exact no

instance {name : Text} [h : Fact (Named name)] : Fact (Named (Key.plain name)) := h

instance {node : Node} [h : Fact (Named node)] : Fact (Named (Key.computed node)) := h

instance {value : Option Text} : Fact (Named (Key.string value)) := ⟨trivial⟩

instance : Fact (Named Key.numeric) := ⟨trivial⟩

instance {name : Text} : Fact (Named (Key.hidden name)) := ⟨trivial⟩

instance {key : Key} [h : Fact (Named key)] : Fact (Named key.computed?) := by
  cases key with
  | computed node =>
    have held : Fact (Named node) := h
    exact inferInstanceAs (Fact (Named (some node)))
  | _ => exact inferInstanceAs (Fact (Named (none : Option Node)))

section Records

variable {node : Node}

instance {rest plainRest : Bool} {line : Nat} [h : Fact (Named node)] :
    Fact (Named (Parse.BindingItem.mk node rest plainRest line)) := h

instance {item : Parse.BindingItem} [h : Fact (Named item)] : Fact (Named item.node) := h

instance {isConstructor : Bool} {line : Nat} [h : Fact (Named node)] :
    Fact (Named (Member.mk node isConstructor line)) := h

instance {member : Member} [h : Fact (Named member)] : Fact (Named member.node) := h

instance {hasValue : Bool} {line : Nat} [h : Fact (Named node)] :
    Fact (Named (Parse.Declarator.mk node hasValue line)) := h

instance {declarator : Parse.Declarator} [h : Fact (Named declarator)] :
    Fact (Named declarator.node) := h

instance {initial test step : Option Node} [h : Fact (Named initial)] [h' : Fact (Named test)]
    [h'' : Fact (Named step)] : Fact (Named (Parse.LoopHead.counted initial test step)) :=
  ⟨h.out, h'.out, h''.out⟩

instance {left right : Node} {byOf : Bool} [h : Fact (Named left)] [h' : Fact (Named right)] :
    Fact (Named (Parse.LoopHead.members left right byOf)) := ⟨h.out, h'.out⟩

instance {head : Parse.LoopHead} {start : Nat} {body : Node} [h : Fact (Named head)]
    [h' : Fact (Named body)] : Fact (Named (head.loop start body)) := by
  cases head with
  | counted initial test step =>
    have initial_named : Fact (Named initial) := ⟨h.out.1⟩
    have test_named : Fact (Named test) := ⟨h.out.2.1⟩
    have step_named : Fact (Named step) := ⟨h.out.2.2⟩
    exact inferInstanceAs (Fact (Named (Node.countedLoop start initial test step body)))
  | members left right byOf =>
    have left_named : Fact (Named left) := ⟨h.out.1⟩
    have right_named : Fact (Named right) := ⟨h.out.2⟩
    exact inferInstanceAs (Fact (Named (Node.memberLoop start left right body)))

instance {comma : Option Nat} [h : Fact (Named value)] : Fact (Named (value, comma)) := h

instance {item : α × Option Nat} [h : Fact (Named item)] : Fact (Named item.1) := h

instance {flag : Bool} [h : Fact (Named value)] : Fact (Named (value, flag)) := h

instance {read : α × Bool} [h : Fact (Named read)] : Fact (Named read.1) := h

instance {pieces : List (Option Text)} {nodes : List Node} {closed : Bool}
    [h : Fact (Named nodes)] : Fact (Named (pieces, nodes, closed)) := h

end Records

end Values

namespace Parse

variable {α β : Type}

/-- Started at a token without an empty word, the parser makes a value with `Q` or none at all. -/
class Makes (Q : α → Prop) (parser : Parse α) : Prop where
  makes : ∀ scope start value state, parser.run scope start = .done value state →
    Named start.current.token → Q value

section Steps

variable {Q : β → Prop} {parser : Parse α} {next : α → Parse β}

theorem Makes.after {P : α → Prop} (first : Makes P parser)
    (second : ∀ value, P value → Makes Q (next value)) : Makes Q (parser >>= next) where
  makes scope start value state done named := by
    obtain ⟨held, middle, done₁, done₂⟩ := run_bind done
    have made := first.makes scope start held middle done₁ named
    exact (second held made).makes scope middle value state done₂
      ((reaches_of_done done₁).named named)

theorem Makes.past (second : ∀ value, Makes Q (next value)) : Makes Q (parser >>= next) :=
  Makes.after (P := fun _ => True) ⟨fun _ _ _ _ _ _ => trivial⟩ fun value _ => second value

theorem Makes.given [Naming α] [first : Makes Named parser]
    (second : ∀ value, Fact (Named value) → Makes Q (next value)) : Makes Q (parser >>= next) :=
  first.after fun value named => second value ⟨named⟩

instance Makes.last [∀ value, Makes Q (next value)] : Makes Q (parser >>= next) :=
  Makes.past inferInstance

instance Makes.bind [Naming α] [first : Makes Named parser]
    [second : ∀ value : { value : α // Named value }, Makes Q (next value.val)] :
    Makes Q (parser >>= next) :=
  first.after fun value named => second ⟨value, named⟩

end Steps

section Values

variable {Q : α → Prop} {parser : Parse α}

instance {value : α} [h : Fact (Q value)] : Makes Q (pure value : Parse α) where
  makes scope start result state done _ := by
    cases done
    exact h.out

instance {c : Prop} [Decidable c] {p q : Parse α} [Makes Q p] [Makes Q q] :
    Makes Q (if c then p else q) := by
  split <;> infer_instance

instance {change : Scope → Scope} [made : Makes Q parser] : Makes Q (within change parser) :=
  ⟨fun scope => made.makes (change scope)⟩

instance [made : Makes Q parser] : Makes Q (withIn parser) :=
  inferInstanceAs (Makes Q (within _ parser))

instance [Naming α] [Makes Named parser] : Makes Named (some <$> parser) :=
  inferInstanceAs (Makes Named (parser >>= fun value => pure (some value)))

instance : Makes Named token where
  makes scope start value state done named := by
    cases done
    exact named

end Values

section Faults

variable {Q : α → Prop}

instance : Makes Q (default : Parse α) where
  makes scope start value state done := by cases done

instance (report : Report) : Makes Q (restuck report : Parse α) where
  makes scope start value state done := by cases done

instance (fault : Fault) (line : Nat) : Makes Q (failAt fault line : Parse α) where
  makes scope start value state done := by cases done

instance (fault : Fault) : Makes Q (fail fault : Parse α) := by
  unfold fail
  infer_instance

instance (wanted : Text) : Makes Q (failExpected wanted : Parse α) := by
  unfold failExpected
  infer_instance

instance (wanted : Text) : Makes Q (failUnexpected wanted : Parse α) := by
  unfold failUnexpected
  infer_instance

end Faults

section Loops

variable [Naming α]

instance {step : Parse (Option α)} [Makes Named step] : Makes Named (collect step) := by
  have upTo (n : Nat) : Makes Named (collectUpTo step n) := by
    induction n with
    | zero => exact inferInstanceAs (Makes Named default)
    | succ n ih =>
      refine Makes.given fun found named => ?_
      cases found with
      | none => infer_instance
      | some value =>
        have held : Fact (Named value) := ⟨named.out value rfl⟩
        infer_instance
  unfold collect
  infer_instance

instance {step : α → Parse (Option α)} {value : α} [held : Fact (Named value)]
    [steps : ∀ value : { value : α // Named value }, Makes Named (step value.val)] :
    Makes Named (grow step value) := by
  have upTo (n : Nat) (value : α) (named : Named value) : Makes Named (growUpTo step n value) := by
    induction n generalizing value with
    | zero =>
      have held : Fact (Named value) := ⟨named⟩
      exact inferInstanceAs (Makes Named (pure value))
    | succ n ih =>
      refine Makes.after (steps ⟨value, named⟩) fun found named' => ?_
      cases found with
      | none =>
        have held : Fact (Named value) := ⟨named⟩
        infer_instance
      | some next => exact ih next (named' next rfl)
  unfold grow
  exact Makes.past fun _ => upTo _ value held.out

instance {parser : Parse α} [made : Makes Named parser] : Makes Named (attempt parser) where
  makes scope start value state done named result ok := by
    subst ok
    unfold attempt at done
    dsimp only at done
    split at done
    · rename_i ran
      cases done
      exact made.makes scope start _ _ ran named
    · cases done

end Loops

end Parse

end MessageHarvest.Script
