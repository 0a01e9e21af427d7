import PasswordHashing.Bytes.Utf8

/-!
Environments: entries of bytes, each a name, an equals sign and a value. A variable is looked up by
the start of an entry, so that what was set last is found (`value_set`) and the other variables stay
as they are (`value_set_of_ne`). Where text is asked for, a value that is no UTF-8 text counts as
absent.
-/

namespace PasswordHashing

/-- The variables that are set, each in an entry of its own. -/
structure Environment where
  entries : List (List UInt8)
  deriving DecidableEq, Repr

namespace Environment

/-- How the entry of a variable begins. -/
def opening (name : String) : List UInt8 :=
  Utf8.encode name ++ [0x3d]

def ofBindings (bindings : List (String × List UInt8)) : Environment :=
  ⟨bindings.map fun (name, value) => opening name ++ value⟩

/-- The environment in a block of entries, each ended by a zero byte. -/
def ofBlock (block : List UInt8) : Environment :=
  ⟨block.splitOn 0⟩

/-- The value of a variable: the rest of the first entry that begins with its name and an equals
sign. A name that holds an equals sign itself reaches into a value in this way. The empty name has
no value. -/
def value (env : Environment) (name : String) : Option (List UInt8) :=
  if name = "" then none
  else env.entries.findSome? fun entry => (opening name).isPrefixOf? entry

def text (env : Environment) (name : String) : Option String :=
  (env.value name).bind Utf8.decode

/-- Put an entry in the place of the first one that begins in the given way, or else at the end.
Later entries that begin so stay as they are. -/
def replaceFirst (front fresh : List UInt8) : List (List UInt8) → List (List UInt8)
  | [] => [fresh]
  | entry :: entries =>
      if front.isPrefixOf entry then fresh :: entries
      else entry :: replaceFirst front fresh entries

def set (env : Environment) (name : String) (value : List UInt8) : Environment :=
  ⟨replaceFirst (opening name) (opening name ++ value) env.entries⟩

theorem isPrefixOf?_append (front rest : List UInt8) :
    front.isPrefixOf? (front ++ rest) = some rest := by
  induction front with
  | nil => rfl
  | cons b front ih =>
      change (if b == b then front.isPrefixOf? (front ++ rest) else none) = some rest
      rw [ih, beq_self_eq_true, if_pos rfl]

theorem isPrefixOf?_eq_none {front entry : List UInt8} (hNot : front.isPrefixOf entry = false) :
    front.isPrefixOf? entry = none := by
  induction front generalizing entry with
  | nil => cases hNot
  | cons b front ih =>
      cases entry with
      | nil => rfl
      | cons c entry =>
          change (if b == c then front.isPrefixOf? entry else none) = none
          change (b == c && front.isPrefixOf entry) = false at hNot
          split
          · rename_i hEq
            rw [hEq, Bool.true_and] at hNot
            exact ih hNot
          · rfl

/-- An entry that has been put is the first one found, also if later ones begin like it. -/
theorem findSome?_replaceFirst (front rest : List UInt8) (entries : List (List UInt8)) :
    (replaceFirst front (front ++ rest) entries).findSome? (fun entry => front.isPrefixOf? entry) =
      some rest := by
  induction entries with
  | nil => simp [replaceFirst, isPrefixOf?_append]
  | cons entry entries ih =>
      rw [replaceFirst]
      split
      · simp [isPrefixOf?_append]
      · rename_i hNot
        rw [List.findSome?_cons, isPrefixOf?_eq_none (Bool.eq_false_iff.mpr hNot)]
        exact ih

/-- A variable that is set has the value it was given. The empty name never has one. -/
theorem value_set (env : Environment) {name : String} (hName : name ≠ "") (value : List UInt8) :
    (env.set name value).value name = some value := by
  rw [Environment.value, if_neg hName]
  exact findSome?_replaceFirst (opening name) value env.entries

/-- No opening is the start of another one, unless a name holds an equals sign. -/
theorem name_eq_of_opening {name other : String} (hEquals : 0x3d ∉ Utf8.encode other)
    (hPrefix : opening name <+: opening other) : name = other := by
  rcases List.prefix_concat_iff.mp hPrefix with hSame | hInside
  · exact Utf8.encode_injective (List.append_cancel_right hSame)
  · have hMem : 0x3d ∈ opening name := List.mem_append_right _ List.mem_cons_self
    exact absurd (hInside.mem hMem) hEquals

/-- An entry belongs to one variable only: the equals sign ends its name. -/
theorem isPrefixOf?_opening_of_ne {name other : String} (hName : 0x3d ∉ Utf8.encode name)
    (hOther : 0x3d ∉ Utf8.encode other) (hNe : other ≠ name) {entry : List UInt8}
    (hEntry : opening name <+: entry) : (opening other).isPrefixOf? entry = none := by
  apply isPrefixOf?_eq_none
  rw [Bool.eq_false_iff, ne_eq, List.isPrefixOf_iff_prefix]
  intro hAlso
  rcases List.prefix_or_prefix_of_prefix hEntry hAlso with hPrefix | hPrefix
  · exact hNe (name_eq_of_opening hOther hPrefix).symm
  · exact hNe (name_eq_of_opening hName hPrefix)

/-- Putting an entry leaves what is found under another opening, provided that no entry begins in
both ways. -/
theorem findSome?_replaceFirst_of_none {front other fresh : List UInt8}
    (hNone : ∀ entry, front <+: entry → other.isPrefixOf? entry = none) (hFresh : front <+: fresh)
    (entries : List (List UInt8)) :
    (replaceFirst front fresh entries).findSome? (fun entry => other.isPrefixOf? entry) =
      entries.findSome? fun entry => other.isPrefixOf? entry := by
  induction entries with
  | nil => simp [replaceFirst, hNone fresh hFresh]
  | cons entry entries ih =>
      rw [replaceFirst]
      split
      · rename_i hEntry
        have hOld := hNone entry (List.isPrefixOf_iff_prefix.mp hEntry)
        simp [hNone fresh hFresh, hOld]
      · rw [List.findSome?_cons, List.findSome?_cons, ih]

/-- Setting a variable leaves the others as they are. -/
theorem value_set_of_ne (env : Environment) {name other : String}
    (hName : 0x3d ∉ Utf8.encode name) (hOther : 0x3d ∉ Utf8.encode other) (hNe : other ≠ name)
    (value : List UInt8) : (env.set name value).value other = env.value other := by
  have hNone (entry : List UInt8) (hEntry : opening name <+: entry) :=
    isPrefixOf?_opening_of_ne hName hOther hNe hEntry
  have hSame := findSome?_replaceFirst_of_none hNone (List.prefix_append (opening name) value)
    env.entries
  rw [Environment.value, Environment.value, set, hSame]

/-- Give a text to a variable that has none. -/
def supply (env : Environment) (name value : String) : Environment :=
  match env.text name with
  | some _ => env
  | none => env.set name (Utf8.encode value)

end Environment

end PasswordHashing
