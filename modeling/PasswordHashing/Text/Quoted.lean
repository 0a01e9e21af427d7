import PasswordHashing.Text.Invisible

/-!
Text between quotes, with everything that could be mistaken for something else escaped: the quote
itself, the backslash, the common control characters, and all characters that leave no mark.
-/

namespace PasswordHashing.Text.Quoted

/-- How a character is written between quotes of the given kind. -/
def escape (quote c : Char) : List Char :=
  if c = '\x00' then ['\\', '0']
  else if c = '\t' then ['\\', 't']
  else if c = '\r' then ['\\', 'r']
  else if c = '\n' then ['\\', 'n']
  else if c = '\\' then ['\\', '\\']
  else if c = quote then ['\\', quote]
  else if Invisible.isInvisible c then
    ['\\', 'u', '\x7b'] ++ Nat.toDigits 16 c.toNat ++ ['\x7d']
  else [c]

def enclose (quote : Char) (cs : List Char) : List Char :=
  quote :: cs.flatMap (escape quote) ++ [quote]

def text (s : String) : String :=
  String.ofList (enclose '"' s.toList)

def char (c : Char) : String :=
  String.ofList (enclose '\'' [c])

end PasswordHashing.Text.Quoted
