import MessageHarvest.Proofs.Text.CodeUnit
import MessageHarvest.Script.Token

namespace MessageHarvest

namespace Text

theorem ofUnits?_map_toNat (text : Text) : ofUnits? (text.map Char.toNat) = some text := by
  have bounded : ∀ n ∈ text.map Char.toNat, n < 0x110000 :=
    List.forall_mem_map.2 fun c _ => toNat_lt c
  exact ofUnits?_eq_some bounded (List.flatMap_map ..)

end Text

namespace Script

namespace StringReading

theorem continueFrom_plain {delimiter : Char} {body : Text} (unquoted : delimiter ∉ body)
    (unescaped : '\\' ∉ body) (other : delimiter ≠ '\\') {fuel : Nat} (enough : body.length < fuel)
    (rest : Text) (line : Nat) (units : List Nat) (notes : List Report) :
    (∃ codes after,
      continueFrom delimiter fuel ⟨body ++ delimiter :: rest, line⟩ units notes =
        .cut codes notes after) ∨
    ∃ line',
      continueFrom delimiter fuel ⟨body ++ delimiter :: rest, line⟩ units notes =
        .closed (units.reverse ++ body.map Char.toNat) notes ⟨rest, line'⟩ := by
  induction body generalizing fuel line units with
  | nil =>
    cases fuel with
    | zero => cases enough
    | succ fuel =>
      refine .inr ⟨Cursor.lineAfter delimiter rest line, ?_⟩
      simp [continueFrom, lineContinuation?, other, Cursor.advance]
  | cons c body ih =>
    cases fuel with
    | zero => cases enough
    | succ fuel =>
      rw [List.mem_cons, not_or] at unquoted unescaped
      have notDelimiter : c ≠ delimiter := fun same => unquoted.1 same.symm
      have notBackslash : c ≠ '\\' := fun same => unescaped.1 same.symm
      by_cases newline : c = '\n' ∨ c = '\r'
      · refine .inl ⟨units.reverse, ⟨c :: (body ++ delimiter :: rest), line⟩, ?_⟩
        simp [continueFrom, lineContinuation?, notBackslash, notDelimiter, newline]
      · have shorter : body.length < fuel := Nat.lt_of_succ_lt_succ enough
        have step := ih unquoted.2 unescaped.2 shorter
          (Cursor.lineAfter c (body ++ delimiter :: rest) line) (c.toNat :: units)
        simpa [continueFrom, lineContinuation?, notBackslash, notDelimiter, newline,
          Cursor.advance] using step

end StringReading

theorem Cut.string_plain {delimiter : Char} {body rest : Text} {line : Nat}
    (unquoted : delimiter ∉ body) (unescaped : '\\' ∉ body) (other : delimiter ≠ '\\')
    (faultless : (Cut.string delimiter ⟨delimiter :: (body ++ delimiter :: rest), line⟩).notes = []) :
    ∃ line', Cut.string delimiter ⟨delimiter :: (body ++ delimiter :: rest), line⟩ =
      ⟨.string (some body), [], ⟨rest, line'⟩⟩ := by
  have enough : body.length < (body ++ delimiter :: rest).length + 1 := by
    rw [List.length_append]
    omega
  have read := StringReading.continueFrom_plain unquoted unescaped other enough rest
    (Cursor.lineAfter delimiter (body ++ delimiter :: rest) line) [] []
  revert faultless
  rw [Cut.string, StringReading.ofCursor, Cursor.advance]
  rcases read with ⟨codes, after, read⟩ | ⟨line', read⟩
  · rw [read]
    intro faultless
    simp at faultless
  · rw [read]
    intro _
    exact ⟨line', by simp [Text.ofUnits?_map_toNat]⟩

theorem Cut.ofCursor_plain {delimiter : Char} {body rest : Text} {line : Nat}
    (quotes : delimiter = '\'' ∨ delimiter = '"') (unquoted : delimiter ∉ body)
    (unescaped : '\\' ∉ body)
    (faultless :
      (Cut.ofCursor ⟨delimiter :: (body ++ delimiter :: rest), line⟩).notes = []) :
    ∃ line', Cut.ofCursor ⟨delimiter :: (body ++ delimiter :: rest), line⟩ =
      ⟨.string (some body), [], ⟨rest, line'⟩⟩ := by
  have quoted : Cut.ofCursor ⟨delimiter :: (body ++ delimiter :: rest), line⟩ =
      Cut.string delimiter ⟨delimiter :: (body ++ delimiter :: rest), line⟩ := by
    rcases quotes with rfl | rfl <;> rfl
  have other : delimiter ≠ '\\' := by rcases quotes with rfl | rfl <;> decide
  rw [quoted] at faultless ⊢
  exact Cut.string_plain unquoted unescaped other faultless

end Script

end MessageHarvest
