import MessageHarvest.Script.Cursor
import MessageHarvest.Text.Digit
import MessageHarvest.Text.Hex
import MessageHarvest.Text.Identifier
import Mathlib.Data.List.Infix

/-!
The end of an argument list: a comma, blanks, a quoted literal and the closing parenthesis; and where
a place in a text that ends like that stands to it.
-/

namespace MessageHarvest.Script

theorem ne_of_isSpace {c d : Char} (space : Text.isSpace c = true) (other : Text.isSpace d = false) :
    c ≠ d := by
  rintro rfl
  rw [space] at other
  cases other

structure Ending where
  blanks : Text
  quote : Char
  body : Text
  blank : ∀ c ∈ blanks, Text.isSpace c = true
  quotes : quote = '\'' ∨ quote = '"'
  unquoted : quote ∉ body
  unescaped : '\\' ∉ body

namespace Ending

variable {ending : Ending}

def literal (ending : Ending) : Text := ending.quote :: (ending.body ++ [ending.quote, ')'])

def text (ending : Ending) : Text := ',' :: (ending.blanks ++ ending.literal)

def OneLine (ending : Ending) : Prop := ∀ c ∈ ending.blanks, isLineTerminator c = false

def Inside (ending : Ending) (text : Text) : Prop :=
  ∃ rest, rest <:+ ending.body ∧ text = rest ++ [ending.quote, ')']

/-- A place inside the literal, right behind a closing parenthesis. -/
def Within (ending : Ending) (text : Text) : Prop :=
  ∃ rest, ')' :: rest <:+ ending.body ∧ text = rest ++ [ending.quote, ')']

/-- A line comment that hides the comma behind `front` hides the literal as well. -/
def Shown (ending : Ending) (front : Text) : Prop :=
  ∀ line, '/' :: '/' :: line <:+ front → (∀ c ∈ line, isLineTerminator c = false) → ending.OneLine

/-- The literal does not come next: the comma before it is still ahead, or a place inside the literal
has been reached. -/
inductive Clear (ending : Ending) : Text → Prop
  | ahead {front : Text} (unclosed : ')' ∉ front) (shown : ending.Shown front) :
      Clear ending (front ++ ending.text)
  | lost {rest : Text} (inside : rest <:+ ending.body) : Clear ending (rest ++ [ending.quote, ')'])
  | nil : Clear ending []

inductive Covers (ending : Ending) : Text → Prop
  | clear {text : Text} (clear : ending.Clear text) : Covers ending text
  | due {blanks : Text} (after : blanks <:+ ending.blanks) : Covers ending (blanks ++ ending.literal)
  | close : Covers ending [')']

theorem Shown.suffix {front after : Text} (h : ending.Shown front) (s : after <:+ front) :
    ending.Shown after :=
  fun line comment => h line (comment.trans s)

theorem blank_of_suffix {c : Char} {blanks : Text} (after : c :: blanks <:+ ending.blanks) :
    Text.isSpace c = true :=
  ending.blank c (after.subset (by simp))

theorem quote_ne {c : Char} (h : c ≠ '\'') (k : c ≠ '"') : c ≠ ending.quote := by
  intro e
  rcases ending.quotes with q | q
  · exact h (e.trans q)
  · exact k (e.trans q)

theorem within_of_close {rest : Text} (h : ending.Clear (')' :: rest)) : ending.Within rest := by
  generalize ht : ')' :: rest = text at h
  cases h with
  | @ahead front unclosed =>
    cases front with
    | nil => simp [Ending.text] at ht
    | cons c front =>
      obtain ⟨rfl, -⟩ := List.cons.inj ht
      simp at unclosed
  | @lost inner inside =>
    cases inner with
    | nil =>
      obtain ⟨h, -⟩ := List.cons.inj ht
      exact absurd h (quote_ne (by decide) (by decide))
    | cons c inner =>
      obtain ⟨rfl, rfl⟩ := List.cons.inj ht
      exact ⟨inner, inside, rfl⟩
  | nil => simp at ht

end Ending

def isPlain (c : Char) : Bool :=
  c ≠ ',' && c ≠ '\'' && c ≠ '"' && !Text.isSpace c

theorem isPlain_iff {c : Char} :
    isPlain c = true ↔ c ≠ ',' ∧ c ≠ '\'' ∧ c ≠ '"' ∧ Text.isSpace c = false := by
  simp [isPlain, and_assoc]

namespace Ending

variable {ending : Ending}

inductive Steps (ending : Ending) (c : Char) : Text → Prop
  | clear {rest : Text} (clear : ending.Clear rest) : Steps ending c rest
  | comma (comma : c = ',') : Steps ending c (ending.blanks ++ ending.literal)
  | blank {blanks : Text} (after : c :: blanks <:+ ending.blanks) :
      Steps ending c (blanks ++ ending.literal)
  | opened (quote : c = ending.quote) : Steps ending c (ending.body ++ [ending.quote, ')'])
  | closed (quote : c = ending.quote) : Steps ending c [')']

theorem Covers.steps {c : Char} {rest : Text} (h : ending.Covers (c :: rest)) :
    ending.Steps c rest := by
  generalize ht : c :: rest = text at h
  cases h with
  | clear h =>
    cases h with
    | @ahead front unclosed shown =>
      cases front with
      | nil =>
        obtain ⟨comma, rfl⟩ := List.cons.inj ht
        exact .comma comma
      | cons d front =>
        obtain ⟨-, rfl⟩ := List.cons.inj ht
        exact .clear (.ahead (fun m => unclosed (List.mem_cons_of_mem d m))
          (shown.suffix (List.suffix_cons d front)))
    | @lost inner inside =>
      cases inner with
      | nil =>
        obtain ⟨quote, rfl⟩ := List.cons.inj ht
        exact .closed quote
      | cons d inner =>
        obtain ⟨-, rfl⟩ := List.cons.inj ht
        exact .clear (.lost ((List.suffix_cons d inner).trans inside))
    | nil => simp at ht
  | @due blanks after =>
    cases blanks with
    | nil =>
      obtain ⟨quote, rfl⟩ := List.cons.inj ht
      exact .opened quote
    | cons d blanks =>
      obtain ⟨rfl, rfl⟩ := List.cons.inj ht
      exact .blank after
  | close =>
    obtain ⟨-, rfl⟩ := List.cons.inj ht
    exact .clear .nil

theorem Covers.tail {c : Char} {rest : Text} (h : ending.Covers (c :: rest)) :
    ending.Covers rest := by
  cases h.steps with
  | clear clear => exact .clear clear
  | comma => exact .due List.suffix_rfl
  | blank after => exact .due ((List.suffix_cons ..).trans after)
  | opened => exact .clear (.lost List.suffix_rfl)
  | closed => exact .close

theorem Covers.suffix {text after : Text} (h : ending.Covers text) (s : after <:+ text) :
    ending.Covers after := by
  obtain ⟨front, rfl⟩ := s
  induction front with
  | nil => exact h
  | cons c front ih => exact ih h.tail

theorem Clear.tail {c : Char} {rest : Text} (h : ending.Clear (c :: rest)) (comma : c ≠ ',')
    (quote : c ≠ ending.quote) : ending.Clear rest := by
  generalize ht : c :: rest = text at h
  cases h with
  | @ahead front unclosed shown =>
    cases front with
    | nil => exact absurd (List.cons.inj ht).1 comma
    | cons d front =>
      obtain ⟨-, rfl⟩ := List.cons.inj ht
      exact .ahead (fun m => unclosed (List.mem_cons_of_mem d m))
        (shown.suffix (List.suffix_cons d front))
  | @lost inner inside =>
    cases inner with
    | nil => exact absurd (List.cons.inj ht).1 quote
    | cons d inner =>
      obtain ⟨-, rfl⟩ := List.cons.inj ht
      exact .lost ((List.suffix_cons d inner).trans inside)
  | nil => simp at ht

theorem Covers.clear_of_plain {c : Char} {rest : Text} (h : ending.Covers (c :: rest))
    (plain : isPlain c = true) : ending.Clear rest := by
  obtain ⟨comma, single, double, space⟩ := isPlain_iff.1 plain
  cases h.steps with
  | clear clear => exact clear
  | comma here => exact absurd here comma
  | blank after => exact absurd rfl (ne_of_isSpace (ending.blank_of_suffix after) space)
  | opened here => exact absurd here (quote_ne single double)
  | closed here => exact absurd here (quote_ne single double)

end Ending

/-- The characters read from `text` to `after` end with a plain one. -/
inductive Behind : Text → Text → Prop
  | last {c : Char} {after : Text} (plain : isPlain c = true) : Behind (c :: after) after
  | cons {text after : Text} (c : Char) (behind : Behind text after) : Behind (c :: text) after

namespace Behind

theorem suffix {text after : Text} (h : Behind text after) : after <:+ text := by
  induction h with
  | last plain => exact List.suffix_cons _ _
  | cons c _ ih => exact ih.trans (List.suffix_cons c _)

theorem of_suffix {whole text after : Text} (s : text <:+ whole) (h : Behind text after) :
    Behind whole after := by
  obtain ⟨front, rfl⟩ := s
  induction front with
  | nil => exact h
  | cons c front ih => exact ih.cons c

theorem clear {ending : Ending} {text after : Text} (h : Behind text after)
    (covers : ending.Covers text) : ending.Clear after := by
  induction h with
  | last plain => exact covers.clear_of_plain plain
  | cons c _ ih => exact ih covers.tail

end Behind

inductive Reads : Text → Text → Prop
  | refl (text : Text) : Reads text text
  | cons {c : Char} {text after : Text} (plain : isPlain c = true) (reads : Reads text after) :
      Reads (c :: text) after

namespace Reads

theorem trans {a b c : Text} (first : Reads a b) (second : Reads b c) : Reads a c := by
  induction first with
  | refl => exact second
  | cons plain _ ih => exact .cons plain (ih second)

theorem single {c : Char} {after : Text} (plain : isPlain c = true) : Reads (c :: after) after :=
  .cons plain (.refl after)

theorem suffix {text after : Text} (h : Reads text after) : after <:+ text := by
  induction h with
  | refl => exact List.suffix_rfl
  | cons _ _ ih => exact ih.trans (List.suffix_cons _ _)

theorem behind {c : Char} {text after : Text} (plain : isPlain c = true) (h : Reads text after) :
    Behind (c :: text) after := by
  induction h generalizing c with
  | refl => exact .last plain
  | cons next _ ih => exact (ih next).cons c

end Reads

theorem Behind.reads {text middle after : Text} (h : Behind text middle)
    (reads : Reads middle after) : Behind text after := by
  induction h with
  | last plain => exact reads.behind plain
  | cons c _ ih => exact (ih reads).cons c

end MessageHarvest.Script
