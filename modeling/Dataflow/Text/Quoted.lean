import Dataflow.Text.Shown

/-!
# Quoted text

A quoted text stands between double quotes. Quotes, backslashes and the common control characters
are written with a backslash, other characters that would not be seen by their number.
-/

namespace Dataflow

namespace Text

def hex (n : Nat) : List Char := Nat.toDigits 16 n

def quoteChar (c : Char) : List Char :=
  if c = '"' then ['\\', '"']
  else if c = '\\' then ['\\', '\\']
  else if c = '\n' then ['\\', 'n']
  else if c = '\t' then ['\\', 't']
  else if c = '\r' then ['\\', 'r']
  else if c.toNat = 0 then ['\\', '0']
  else if shown c then [c]
  else ['\\', 'u', '\x7b'] ++ hex c.toNat ++ ['\x7d']

def quote (s : String) : String :=
  String.ofList ('"' :: (s.toList.flatMap quoteChar ++ ['"']))

/-- `"a", "b"`: quoted texts with commas between them. -/
def quoteAll (texts : List String) : String := ", ".intercalate (texts.map quote)

end Text

end Dataflow
