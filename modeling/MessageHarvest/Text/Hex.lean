import MessageHarvest.Text.Basic

/-!
Hexadecimal digits, and the code units that escapes denote: two surrogates, a high one before a low
one, denote one character together.
-/

namespace MessageHarvest.Text

def hexDigit? (c : Char) : Option Nat :=
  if '0' ≤ c ∧ c ≤ '9' then some (c.toNat - 48)
  else if 'a' ≤ c ∧ c ≤ 'f' then some (c.toNat - 87)
  else if 'A' ≤ c ∧ c ≤ 'F' then some (c.toNat - 55)
  else none

def isHexDigit (c : Char) : Bool := (hexDigit? c).isSome

def takeHex? : (count : Nat) → (value : Nat) → Text → Option (Nat × Text)
  | 0, value, rest => some (value, rest)
  | _ + 1, _, [] => none
  | count + 1, value, c :: rest =>
      match hexDigit? c with
      | some d => takeHex? count (value * 16 + d) rest
      | none => none

def spanHex : (count : Nat) → (value : Nat) → Text → Nat × Nat × Text
  | count, value, [] => (count, value, [])
  | count, value, c :: rest =>
      match hexDigit? c with
      | some d => spanHex (count + 1) (value * 16 + d) rest
      | none => (count, value, c :: rest)

def isHighSurrogate (n : Nat) : Bool := 0xD800 ≤ n && n < 0xDC00

def isLowSurrogate (n : Nat) : Bool := 0xDC00 ≤ n && n < 0xE000

def isSurrogate (n : Nat) : Bool := 0xD800 ≤ n && n < 0xE000

def joinSurrogates (high low : Nat) : Nat := 0x10000 + (high - 0xD800) * 0x400 + (low - 0xDC00)

def isScalar (n : Nat) : Bool := n < 0xD800 || (0xE000 ≤ n && n < 0x110000)

/-- The text of a sequence of code units and code points; none when a surrogate stands alone. -/
def ofUnits? : List Nat → Option Text
  | [] => some []
  | [unit] => if isSurrogate unit then none else some [Char.ofNat unit]
  | unit :: next :: rest =>
      if isHighSurrogate unit && isLowSurrogate next then
        (ofUnits? rest).map (Char.ofNat (joinSurrogates unit next) :: ·)
      else if isSurrogate unit then none
      else (ofUnits? (next :: rest)).map (Char.ofNat unit :: ·)

theorem length_of_takeHex? {count value n : Nat} {text rest : Text}
    (h : takeHex? count value text = some (n, rest)) : text.length = count + rest.length := by
  induction count generalizing value text with
  | zero =>
    simp [takeHex?] at h
    simp [h.2]
  | succ count ih =>
    cases text with
    | nil => simp [takeHex?] at h
    | cons c text =>
      simp only [takeHex?] at h
      cases hc : hexDigit? c with
      | none => simp [hc] at h
      | some d =>
        simp only [hc] at h
        have := ih h
        simp only [List.length_cons]
        omega

end MessageHarvest.Text
