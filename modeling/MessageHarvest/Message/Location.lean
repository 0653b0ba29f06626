import MessageHarvest.Message.Record

/-!
The text by which a source location is recorded: the path with single forward slashes, and the line
after a colon where it is known.
-/

namespace MessageHarvest

def isSeparator (c : Char) : Bool := c = '/' || c = '\\'

/-- Each run of separators becomes one slash. `inRun` tells that one has just been written. -/
def collapseSeparators : (inRun : Bool) → Text → Text
  | _, [] => []
  | inRun, c :: rest =>
      if isSeparator c then
        if inRun then collapseSeparators true rest else '/' :: collapseSeparators true rest
      else c :: collapseSeparators false rest

def normalizePath (path : Text) : Text := collapseSeparators false path

def sourceLocation (path : Text) (line : Option Nat) : Text :=
  match line with
  | some line => normalizePath path ++ ':' :: Text.ofNat line
  | none => normalizePath path

def MessageRecord.location (record : MessageRecord) : Text :=
  sourceLocation record.file record.line

theorem not_mem_collapseSeparators (inRun : Bool) (path : Text) :
    '\\' ∉ collapseSeparators inRun path := by
  induction path generalizing inRun with
  | nil => simp [collapseSeparators]
  | cons c rest ih =>
    simp only [collapseSeparators]
    split
    · split
      · exact ih true
      · intro h
        rcases List.mem_cons.1 h with h | h
        · exact absurd h (by decide)
        · exact ih true h
    · rename_i plain
      intro h
      rcases List.mem_cons.1 h with h | h
      · subst h
        exact plain (by decide)
      · exact ih false h

end MessageHarvest
