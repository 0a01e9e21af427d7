import PasswordHashing.Json.Token

/-!
JSON values and their strict reading. The reader takes one token after another and keeps the arrays
and objects that are still open, so that values may be nested to any depth.
-/

namespace PasswordHashing.Json

/-- A JSON value. Numbers are kept as they are written, and members in their order, also when a key
is repeated. A string has no text if it holds half of a surrogate pair without the other. -/
inductive Value where
  | null
  | bool (value : Bool)
  | number (written : List Char)
  | string (text : Option String)
  | array (items : List Value)
  | object (members : List (Option String × Value))

/-- An array or object whose last bracket is still to come, with what it holds so far, the last
first. An object waits for the value of a key. -/
inductive Frame where
  | array (items : List Value)
  | object (members : List (Option String × Value)) (key : Option String)

/-- What the reader expects next. Members of an object being read are listed with the last first. -/
inductive Mode where
  | value
  /-- A value or the end of an array that has no items yet. -/
  | firstItem
  /-- A key or the end of an object that has no members yet. -/
  | firstKey
  | key (members : List (Option String × Value))
  | colon (members : List (Option String × Value)) (key : Option String)
  /-- Whatever may follow the value just read. -/
  | done (value : Value)

/-- The reader between two tokens: what it expects, and the open arrays and objects, the innermost
first. -/
structure Reader where
  mode : Mode
  frames : List Frame

/-- Take a token where a value must begin. -/
def Reader.begin (frames : List Frame) : Token → Option Reader
  | .null => some ⟨.done .null, frames⟩
  | .bool b => some ⟨.done (.bool b), frames⟩
  | .number written => some ⟨.done (.number written), frames⟩
  | .string text => some ⟨.done (.string text), frames⟩
  | .openArray => some ⟨.firstItem, frames⟩
  | .openObject => some ⟨.firstKey, frames⟩
  | _ => none

/-- Take a token after a value that is complete. -/
def Reader.proceed (value : Value) : List Frame → Token → Option Reader
  | .array items :: frames, .comma => some ⟨.value, .array (value :: items) :: frames⟩
  | .array items :: frames, .closeArray => some ⟨.done (.array (value :: items).reverse), frames⟩
  | .object members key :: frames, .comma => some ⟨.key ((key, value) :: members), frames⟩
  | .object members key :: frames, .closeObject =>
      some ⟨.done (.object ((key, value) :: members).reverse), frames⟩
  | _, _ => none

def Reader.step (r : Reader) (token : Token) : Option Reader :=
  match r.mode, token with
  | .value, token => begin r.frames token
  | .firstItem, .closeArray => some ⟨.done (.array []), r.frames⟩
  | .firstItem, token => begin (.array [] :: r.frames) token
  | .firstKey, .closeObject => some ⟨.done (.object []), r.frames⟩
  | .firstKey, .string key => some ⟨.colon [] key, r.frames⟩
  | .key members, .string key => some ⟨.colon members key, r.frames⟩
  | .colon members key, .colon => some ⟨.value, .object members key :: r.frames⟩
  | .done value, token => proceed value r.frames token
  | _, _ => none

def Reader.run (r : Reader) : List Token → Option Reader
  | [] => some r
  | token :: tokens =>
      match r.step token with
      | none => none
      | some r => r.run tokens

/-- The value that a text denotes, if the text is strict JSON. -/
def parse (cs : List Char) : Option Value :=
  match tokens [] cs with
  | none => none
  | some found =>
      match Reader.run ⟨.value, []⟩ found with
      | some ⟨.done value, []⟩ => some value
      | _ => none

end PasswordHashing.Json
