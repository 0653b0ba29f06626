import MessageHarvest.Text.Printable

namespace MessageHarvest.Text

def hexNumeral (n : Nat) : Text := Nat.toDigits 16 n

def escapeFor (quote c : Char) : Text :=
  if c.toNat = 0 then ['\\', '0']
  else if c = '\t' then ['\\', 't']
  else if c = '\r' then ['\\', 'r']
  else if c = '\n' then ['\\', 'n']
  else if c = '\\' then ['\\', '\\']
  else if c = quote then ['\\', quote]
  else if isPrintable c then [c]
  else '\\' :: 'u' :: '\x7b' :: hexNumeral c.toNat ++ ['\x7d']

def quoteChar (c : Char) : Text := '\'' :: escapeFor '\'' c ++ ['\'']

def quote (text : Text) : Text := '"' :: text.flatMap (escapeFor '"') ++ ['"']

def quoteList (texts : List Text) : Text :=
  '[' :: join [',', ' '] (texts.map quote) ++ [']']

end MessageHarvest.Text
