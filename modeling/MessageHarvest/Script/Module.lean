import MessageHarvest.Script.ModuleItem

/-!
Modules: a source text is parsed to a syntax tree, or to the fault that is reported.

A fault that the parser cannot go on from is reported first; otherwise the first fault that was noted
is, in the order in which they were found. The tokens are read one ahead, so a fault in a token is
found before a fault of the construct that ends there.
-/

namespace MessageHarvest.Script

namespace Grammar

def unbound : Grammar where
  expression := default
  assignment := default
  unary := default
  operand := default
  construction := default
  binaryTail := fun _ _ => default
  binding := default
  statement := fun _ => default
  markup := fun _ => default

def step (grammar : Grammar) : Grammar where
  expression := Parse.expression grammar
  assignment := Parse.assignment grammar
  unary := Parse.unary grammar false
  operand := Parse.operand grammar false
  construction := Parse.construction grammar false
  binaryTail := Parse.binaryTail grammar
  binding := Parse.bindingTarget grammar
  statement := Parse.statement grammar
  markup := Parse.markup grammar

def level : Nat → Grammar
  | 0 => unbound
  | n + 1 => step (level n)

end Grammar

def State.ofSource (source : Text) : State :=
  let first := Lexeme.first source
  ⟨first, 1, first.notes.reverse⟩

def firstReport? (notes : List Report) : Option Report := notes.getLast?

def parseModule (source : Text) : Except Report Node :=
  let bound := source.length + 2
  match (Parse.collect (Parse.moduleItem (Grammar.level bound))).run (Scope.ofModule bound)
      (State.ofSource source) with
  | .stuck report _ => .error report
  | .done nodes state =>
      match firstReport? state.notes with
      | some report => .error report
      | none => .ok (.moduleBody 1 nodes)

end MessageHarvest.Script
