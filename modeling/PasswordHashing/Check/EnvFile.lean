import PasswordHashing.Check.Environment
import PasswordHashing.Text.Alphanumeric
import PasswordHashing.Text.Blank

/-!
Environment files: definitions of variables, one to a line, comments and blank lines. A definition
counts only for a variable that has no text yet. A quoted value may run over several lines, and
values may refer to variables. The file is applied line by line, and what follows a line that
cannot be read is ignored.
-/

namespace PasswordHashing.EnvFile

/-- Where in a line of definitions a character stands, as far as line ends and comments depend on
it. -/
inductive Place where
  | plain
  | escape
  | strong
  | strongEscape
  | weak
  | weakEscape
  /-- After a blank, where a comment may begin. -/
  | blank
  deriving DecidableEq, Repr

def Place.enter (c : Char) : Place :=
  if c = '\\' then .escape
  else if c = '"' then .weak
  else if c = '\'' then .strong
  else .plain

def Place.next (place : Place) (c : Char) : Place :=
  match place with
  | .plain => if Text.isBlank c && c ≠ '\n' && c ≠ '\r' then .blank else .enter c
  | .blank => .enter c
  | .escape => .plain
  | .weak => if c = '\\' then .weakEscape else if c = '"' then .plain else .weak
  | .weakEscape => .weak
  | .strong => if c = '\\' then .strongEscape else if c = '\'' then .plain else .strong
  | .strongEscape => .strong

/-- Follow a piece of a line, `before` being what was passed, the last character first. Gives the
place at its end, or nothing if a comment begins, and all that was passed up to there. -/
def follow (place : Place) (before : List Char) : List Char → Option Place × List Char
  | [] => (some place, before)
  | c :: cs =>
      if place = .blank ∧ c = '#' then (none, before)
      else follow (place.next c) (c :: before) cs

/-- A line without its end, with the last character first. -/
def withoutLineEnd : List Char → List Char
  | '\n' :: '\r' :: before => before
  | '\n' :: before => before
  | before => before

/-- What a file comes to, in lines of definitions. -/
inductive Lines where
  | done
  /-- What follows cannot be read. -/
  | broken
  | line (cs : List Char) (rest : Lines)

/-- Join pieces, of which each is a line of the file with its end, to lines of definitions. A line
of definitions goes on over the end of a piece inside quotes; `before` is what it has so far, the
last character first. A piece that is no text cannot be read, nor can a line that never ends. -/
def join (place : Place) (before : List Char) : List (List UInt8) → Lines
  | [] => if place = .plain then .done else .broken
  | bytes :: pieces =>
      match Utf8.decode bytes with
      | none => .broken
      | some text =>
          if before = [] ∧ (Text.trimStart text.toList).head? = some '#' then
            .line [] (join .plain [] pieces)
          else
            match follow place before text.toList with
            | (none, before) => .line before.reverse (join .plain [] pieces)
            | (some .plain, before) => .line (withoutLineEnd before).reverse (join .plain [] pieces)
            | (some place, before) => join place before pieces

/-- The lines of a file, each with its end. -/
def pieces (bytes : List UInt8) : List (List UInt8) :=
  bytes.foldr
    (fun b lines =>
      if b = 0x0a then [b] :: lines
      else
        match lines with
        | [] => [[b]]
        | line :: lines => (b :: line) :: lines)
    []

inductive Mode where
  | plain
  | escape
  | strong
  /-- After a dollar sign and the characters of a name, the last one first. -/
  | name (before : List Char)
  /-- The same with the name in braces. -/
  | braced (before : List Char)
  /-- After the blank that ends a value; only a comment may follow. -/
  | ended
  deriving DecidableEq, Repr

/-- A value being read: how the next character is read, whether weak quotes are open, and what the
value has so far, the last character first. -/
structure Reading where
  mode : Mode
  weak : Bool
  before : List Char

/-- Put the value of a variable; nothing for one without text. The name comes with its last
character first. -/
def Reading.substitute (env : Environment) (r : Reading) (name : List Char) : Reading :=
  let value := (env.text (String.ofList name.reverse)).getD ""
  { r with before := value.toList.reverse ++ r.before }

def Reading.put (r : Reading) (c : Char) : Reading :=
  { r with before := c :: r.before }

def Reading.stepPlain (r : Reading) (c : Char) : Reading :=
  if c = '$' then { r with mode := .name [] }
  else if c = '\\' then { r with mode := .escape }
  else if r.weak then if c = '"' then { r with weak := false } else r.put c
  else if c = '\'' then { r with mode := .strong }
  else if c = '"' then { r with weak := true }
  else if c = ' ' ∨ c = '\t' then { r with mode := .ended }
  else r.put c

/-- Read a character. Nothing comes of a character that cannot stand where it does. -/
def Reading.step (env : Environment) (r : Reading) (c : Char) : Option Reading :=
  match r.mode with
  | .plain => some (r.stepPlain c)
  | .escape =>
      if c = '\\' ∨ c = '\'' ∨ c = '"' ∨ c = '$' ∨ c = ' ' then some { r.put c with mode := .plain }
      else if c = 'n' then some { r.put '\n' with mode := .plain }
      else none
  | .strong => some (if c = '\'' then { r with mode := .plain } else r.put c)
  | .name before =>
      if Text.Alphanumeric.isAlphanumeric c then some { r with mode := .name (c :: before) }
      else if c = '\x7b' ∧ before = [] then some { r with mode := .braced [] }
      else
        let r := r.substitute env before
        some (if c = '$' then { r with mode := .name [] } else { r.put c with mode := .plain })
  | .braced before =>
      if c = '\x7d' then some { r.substitute env before with mode := .plain }
      else some { r with mode := .braced (c :: before) }
  | .ended => if c = ' ' ∨ c = '\t' then some r else none

/-- The value at the end of a line. Quotes and braces must be closed by then. -/
def Reading.finish (env : Environment) (r : Reading) : Option (List Char) :=
  match r.mode with
  | .strong => none
  | .braced _ => none
  | .name before => if r.weak then none else some (r.substitute env before).before.reverse
  | _ => if r.weak then none else some r.before.reverse

def Reading.run (env : Environment) (r : Reading) : List Char → Option (List Char)
  | [] => r.finish env
  | c :: cs =>
      if r.mode = .ended ∧ c = '#' then r.finish env
      else
        match r.step env c with
        | none => none
        | some r => r.run env cs

def isNameStart (c : Char) : Bool :=
  c.isAlpha || c = '_'

def isNameChar (c : Char) : Bool :=
  c.isAlphanum || c = '_' || c = '.'

def readName : List Char → Option (List Char × List Char)
  | [] => none
  | c :: cs =>
      if isNameStart c then
        some ((c :: cs).takeWhile isNameChar, Text.trimStart ((c :: cs).dropWhile isNameChar))
      else none

/-- Read a name and the equals sign after it. The word export may go before the name. -/
def readTarget (cs : List Char) : Option (List Char × List Char) :=
  match readName cs with
  | none => none
  | some (name, '=' :: rest) => some (name, rest)
  | some (name, rest) =>
      if name = ['e', 'x', 'p', 'o', 'r', 't'] then
        match readName rest with
        | some (name, '=' :: rest) => some (name, rest)
        | _ => none
      else none

inductive Line where
  | empty
  | definition (name : String) (value : String)
  | unreadable
  deriving DecidableEq, Repr

/-- Read a line of definitions, in the environment that its value refers to. -/
def readLine (env : Environment) (cs : List Char) : Line :=
  let cs := Text.trim cs
  if cs = [] ∨ cs.head? = some '#' then .empty
  else
    match readTarget cs with
    | none => .unreadable
    | some (name, rest) =>
        let rest := Text.trimStart rest
        let value :=
          if rest.head? = some '#' then some []
          else Reading.run env ⟨.plain, false, []⟩ rest
        match value with
        | none => .unreadable
        | some value => .definition (String.ofList name) (String.ofList value)

/-- Apply lines of definitions up to the first that cannot be read. -/
def applyLines (env : Environment) : Lines → Environment
  | .done => env
  | .broken => env
  | .line cs rest =>
      match readLine env cs with
      | .empty => applyLines env rest
      | .definition name value => applyLines (env.supply name value) rest
      | .unreadable => env

/-- The bytes of a file without the mark of byte order that may precede them. -/
def withoutMark : List UInt8 → List UInt8
  | 0xef :: 0xbb :: 0xbf :: bytes => bytes
  | bytes => bytes

def apply (env : Environment) (bytes : List UInt8) : Environment :=
  applyLines env (join .plain [] (pieces (withoutMark bytes)))

end PasswordHashing.EnvFile
