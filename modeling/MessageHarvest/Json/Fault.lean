import MessageHarvest.Text.Basic

namespace MessageHarvest.Json

inductive FaultKind where
  | endOfText
  | notJson
  | wrongShape
  deriving Repr, DecidableEq

/-- `remaining` counts the characters behind the place of the fault. -/
structure Fault where
  kind : FaultKind
  message : Text
  remaining : Nat
  deriving Repr, DecidableEq

namespace Fault

def atFirst (kind : FaultKind) (message : String) (rest : Text) : Fault :=
  ⟨kind, message.toList, rest.length - 1⟩

def wrongShape (message : String) : Fault := ⟨.wrongShape, message.toList, 0⟩

def byteLength (c : Char) : Nat :=
  if c.toNat < 0x80 then 1 else if c.toNat < 0x800 then 2 else if c.toNat < 0x10000 then 3 else 4

def byteCount : Text → Nat
  | [] => 0
  | c :: rest => byteLength c + byteCount rest

/-- The line and the column of the last of some characters; columns count bytes. -/
def position : (line column : Nat) → Text → Nat × Nat
  | line, column, [] => (line, column)
  | line, column, c :: rest =>
      if c = '\n' then position (line + 1) 0 rest else position line (column + byteLength c) rest

def describe (fault : Fault) (whole : Text) : Text :=
  let (line, column) := position 1 0 (whole.take (whole.length - fault.remaining))
  fault.message ++ " at line ".toList ++ Text.ofNat line ++ " column ".toList ++ Text.ofNat column

end Fault

end MessageHarvest.Json
