import PasswordHashing.Text.Decimal

/-!
The tokens of a JSON text. Blanks between tokens are dropped. A number is kept as it is written, and
a string as the text it stands for. Numbers and words reach as far as their characters do, since no
two of them may touch in JSON.
-/

namespace PasswordHashing.Json

/-- A token. A string has no text if it holds half of a surrogate pair without the other. -/
inductive Token where
  | openObject
  | closeObject
  | openArray
  | closeArray
  | colon
  | comma
  | null
  | bool (value : Bool)
  | number (written : List Char)
  | string (text : Option String)
  deriving DecidableEq, Repr

/-- The four characters that may stand between tokens. -/
def isSpace (c : Char) : Bool :=
  c = ' ' || c = '\n' || c = '\t' || c = '\r'

def isDigit (c : Char) : Bool :=
  '0' ≤ c && c ≤ '9'

/-- The characters that numbers are made of. -/
def isNumberChar (c : Char) : Bool :=
  isDigit c || c = '-' || c = '+' || c = '.' || c = 'e' || c = 'E'

/-- An exponent, which a number need not have: the letter, a sign or none, and digits. -/
def isExponent : List Char → Bool
  | [] => true
  | c :: cs =>
      let power :=
        match cs with
        | '+' :: cs => cs
        | '-' :: cs => cs
        | cs => cs
      (c = 'e' || c = 'E') && power ≠ [] && power.all isDigit

/-- A fraction, which a number need not have, and an exponent. -/
def isFraction : List Char → Bool
  | '.' :: cs => cs.takeWhile isDigit ≠ [] && isExponent (cs.dropWhile isDigit)
  | cs => isExponent cs

/-- A number without its sign. The whole part has no leading zero. -/
def isUnsigned (cs : List Char) : Bool :=
  let whole := cs.takeWhile isDigit
  (whole = ['0'] || (whole ≠ [] && whole.head? ≠ some '0')) && isFraction (cs.dropWhile isDigit)

def isNumber : List Char → Bool
  | '-' :: cs => isUnsigned cs
  | cs => isUnsigned cs

def word? (cs : List Char) : Option Token :=
  if cs = ['n', 'u', 'l', 'l'] then some .null
  else if cs = ['t', 'r', 'u', 'e'] then some (.bool true)
  else if cs = ['f', 'a', 'l', 's', 'e'] then some (.bool false)
  else none

/-- A piece of a string: a character, or one half of a surrogate pair. -/
inductive Piece where
  | char (c : Char)
  | half (unit : Nat)
  deriving DecidableEq, Repr

/-- The characters that pieces stand for. Every half must meet its other half. -/
def characters : List Piece → Option (List Char)
  | [] => some []
  | .char c :: pieces => (characters pieces).map (c :: ·)
  | .half high :: .half low :: pieces =>
      if 0xd800 ≤ high ∧ high < 0xdc00 ∧ 0xdc00 ≤ low ∧ low < 0xe000 then
        (characters pieces).map
          (Char.ofNat (0x10000 + (high - 0xd800) * 0x400 + (low - 0xdc00)) :: ·)
      else none
  | .half _ :: _ => none

def hexDigit? (c : Char) : Option Nat :=
  if '0' ≤ c ∧ c ≤ '9' then some (c.toNat - 48)
  else if 'a' ≤ c ∧ c ≤ 'f' then some (c.toNat - 87)
  else if 'A' ≤ c ∧ c ≤ 'F' then some (c.toNat - 55)
  else none

/-- The piece for the four digits of an escape. -/
def numbered? (a b c d : Char) : Option Piece :=
  match hexDigit? a, hexDigit? b, hexDigit? c, hexDigit? d with
  | some a, some b, some c, some d =>
      let unit := 0x1000 * a + 0x100 * b + 0x10 * c + d
      some (if 0xd800 ≤ unit ∧ unit < 0xe000 then .half unit else .char (Char.ofNat unit))
  | _, _, _, _ => none

def escaped? (c : Char) : Option Char :=
  if c = '"' then some '"'
  else if c = '\\' then some '\\'
  else if c = '/' then some '/'
  else if c = 'b' then some '\x08'
  else if c = 'f' then some '\x0c'
  else if c = 'n' then some '\n'
  else if c = 'r' then some '\r'
  else if c = 't' then some '\t'
  else none

/-- Read a string whose opening quote has been read, and `before` pieces after it, the last one
first. Gives the pieces and what follows the closing quote. Control characters must be escaped. -/
def pieces (before : List Piece) : List Char → Option (List Piece × List Char)
  | [] => none
  | '"' :: cs => some (before.reverse, cs)
  | '\\' :: 'u' :: a :: b :: c :: d :: cs =>
      match numbered? a b c d with
      | some piece => pieces (piece :: before) cs
      | none => none
  | '\\' :: e :: cs =>
      match escaped? e with
      | some c => pieces (.char c :: before) cs
      | none => none
  | c :: cs => if c.toNat < 0x20 then none else pieces (.char c :: before) cs

/-- Reading a string uses up its closing quote at least, so that reading tokens comes to an end. -/
theorem length_lt_of_pieces {before result : List Piece} {cs rest : List Char}
    (hPieces : pieces before cs = some (result, rest)) : rest.length < cs.length := by
  fun_induction pieces before cs <;> simp_all <;> omega

def mark? (c : Char) : Option Token :=
  if c = '\x7b' then some .openObject
  else if c = '\x7d' then some .closeObject
  else if c = '[' then some .openArray
  else if c = ']' then some .closeArray
  else if c = ':' then some .colon
  else if c = ',' then some .comma
  else none

/-- Read tokens after those `before`, the last one first. -/
def tokens (before : List Token) (cs : List Char) : Option (List Token) :=
  match cs with
  | [] => some before.reverse
  | c :: cs =>
      if isSpace c then tokens before cs
      else if c = '"' then
        match hPieces : pieces [] cs with
        | none => none
        | some (found, rest) =>
            have := length_lt_of_pieces hPieces
            tokens (.string ((characters found).map String.ofList) :: before) rest
      else if isNumberChar c then
        let written := c :: cs.takeWhile isNumberChar
        have := (List.dropWhile_suffix (l := cs) isNumberChar).length_le
        if isNumber written then tokens (.number written :: before) (cs.dropWhile isNumberChar)
        else none
      else if c.isAlpha then
        have := (List.dropWhile_suffix (l := cs) Char.isAlpha).length_le
        match word? (c :: cs.takeWhile Char.isAlpha) with
        | none => none
        | some token => tokens (token :: before) (cs.dropWhile Char.isAlpha)
      else
        match mark? c with
        | none => none
        | some token => tokens (token :: before) cs
termination_by cs.length
decreasing_by all_goals simp only [List.length_cons]; omega

end PasswordHashing.Json
