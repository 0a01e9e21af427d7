import PasswordHashing.Policy
import PasswordHashing.Text.Delimited

/-!
Stored records. A record is opaque text until its fields are read: a compact record has a salt and a
key, a self-describing one also the algorithm and the cost, with colons between. Reading is generous
where writing is strict: the cost parameters may come in any order, numbers may have leading zeros,
and key digits may be of either case.
-/

namespace PasswordHashing

/-- A stored record, as text. Records are equal when their texts are. -/
structure Record where
  text : String
  deriving DecidableEq, Repr

/-- An outline that shows nothing of a record. -/
def Record.inspect (_ : Record) : String :=
  Text.Inspect.wrapped "EncodedHash" (Text.Quoted.text "[HASH]")

structure Fields where
  layout : Layout
  cost : Cost
  salt : String
  key : List UInt8
  deriving DecidableEq, Repr

def algorithmTag : List Char := ['s', 'c', 'r', 'y', 'p', 't']

def delimiter : Char := ':'

/-- The characters of the record for some fields. A compact record says nothing of the cost. -/
def Fields.chars (f : Fields) : List Char :=
  match f.layout with
  | .compact => [delimiter].intercalate [f.salt.toList, Hex.encode f.key]
  | .selfDescribing =>
      [delimiter].intercalate [algorithmTag, f.cost.chars, f.salt.toList, Hex.encode f.key]

def Fields.encode (f : Fields) : Record :=
  ⟨String.ofList f.chars⟩

inductive Parameter where
  | logN
  | blockSize
  | parallelism
  deriving DecidableEq, Repr

namespace Parameter

def name : Parameter → List Char
  | logN => ['l', 'n']
  | blockSize => ['r']
  | parallelism => ['p']

def bound : Parameter → Nat
  | logN => UInt8.size - 1
  | blockSize => UInt32.size - 1
  | parallelism => UInt32.size - 1

def ofName? (name : List Char) : Option Parameter :=
  [logN, blockSize, parallelism].find? fun p => p.name = name

end Parameter

/-- The parameters read so far, each with its value. -/
abbrev Parameters := Parameter → Option Nat

namespace Parameters

def none : Parameters := fun _ => .none

def insert (seen : Parameters) (p : Parameter) (value : Nat) : Parameters :=
  fun q => if q = p then some value else seen q

/-- Read one item, `name=value`, after the parameters already seen. -/
def readItem (seen : Parameters) (item : List Char) : Except RecordFault Parameters :=
  match Text.cut? '=' item with
  | .none => .error (.badParameter (String.ofList item))
  | some (name, value) =>
      match Parameter.ofName? name with
      | .none => .error (.unknownParameter (String.ofList name))
      | some p =>
          match Decimal.read p.bound value with
          | .error _ => .error (.badValue (String.ofList name) (String.ofList value))
          | .ok n =>
              if (seen p).isSome then .error (.duplicateParameter (String.ofList name))
              else .ok (seen.insert p n)

def readItems (seen : Parameters) : List (List Char) → Except RecordFault Parameters
  | [] => .ok seen
  | item :: items =>
      match seen.readItem item with
      | .error fault => .error fault
      | .ok seen => seen.readItems items

/-- The cost, once all parameters are known. -/
def cost (seen : Parameters) : Except RecordFault Cost :=
  match seen .logN, seen .blockSize, seen .parallelism with
  | some k, some r, some p => .ok ⟨k.toUInt8, r.toUInt32, p.toUInt32⟩
  | _, _, _ => .error .missingParameter

end Parameters

/-- Read a cost: each parameter once, in any order, with commas between. -/
def Cost.read (cs : List Char) : Except RecordFault Cost :=
  match Parameters.none.readItems (Text.split ',' cs) with
  | .error fault => .error fault
  | .ok seen => seen.cost

namespace Record

/-- Read the fields that both layouts share. -/
def readShared (layout : Layout) (cost : Cost) (salt key : List Char) : Except RecordFault Fields :=
  if salt = [] then .error .emptySalt
  else
    match Hex.decode key with
    | .error fault => .error (.keyNotHex fault)
    | .ok bytes =>
        if keyLengths.1 ≤ bytes.length ∧ bytes.length ≤ keyLengths.2 then
          .ok ⟨layout, cost, String.ofList salt, bytes⟩
        else .error (.keyLength bytes.length)

/-- Read a record. The leftmost fault is reported, but a wrong number of fields before all others.
-/
def parse (r : Record) : Except RecordFault Fields :=
  match Text.split delimiter r.text.toList with
  | [salt, key] => readShared .compact .standard salt key
  | [tag, cost, salt, key] =>
      if tag = algorithmTag then
        match Cost.read cost with
        | .error fault => .error fault
        | .ok cost => readShared .selfDescribing cost salt key
      else .error (.unsupportedTag (String.ofList tag))
  | fields => .error (.fieldCount fields.length)

def layout (r : Record) : Except Failure Layout :=
  match r.parse with
  | .error fault => .error (.malformedRecord fault)
  | .ok fields => .ok fields.layout

end Record

end PasswordHashing
