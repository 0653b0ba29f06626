import MessageHarvest.Text.Basic

namespace MessageHarvest.Text

/-- `skip` characters belong to an occurrence that has been replaced already. -/
def replaceFrom (pattern value : Text) : (skip : Nat) → Text → Text
  | _, [] => []
  | skip + 1, _ :: rest => replaceFrom pattern value skip rest
  | 0, c :: rest =>
      if hasBeginning pattern (c :: rest) then
        value ++ replaceFrom pattern value (pattern.length - 1) rest
      else c :: replaceFrom pattern value 0 rest

def replace (pattern value text : Text) : Text := replaceFrom pattern value 0 text

theorem replaceFrom_skip (pattern value text : Text) (skip : Nat) :
    replaceFrom pattern value skip text = replaceFrom pattern value 0 (text.drop skip) := by
  induction skip generalizing text with
  | zero => simp
  | succ skip ih =>
    cases text with
    | nil => simp [replaceFrom]
    | cons c rest => simp [replaceFrom, ih]

end MessageHarvest.Text
