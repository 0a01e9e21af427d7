import PasswordHashing.Proofs.CheckVerdict
import Mathlib.Data.List.Forall2

/-! The settings that variables say. `Settings.Describes` tells them by the texts of the variables
and not by a run of a reader: blanks at the ends do not count for a number, for the name of a layout
and for a record, but are part of a password. The items are read in one order, and of several that
cannot be accepted the first is complained of. -/
namespace PasswordHashing

theorem map_unit_eq_ok_iff {ε α : Type} {x : Except ε α} :
    (fun _ => ()) <$> x = .ok () ↔ ∃ a, x = .ok a := by
  cases x <;> simp [Functor.map, Except.map]

theorem map_unit_eq_error_iff {ε α : Type} {x : Except ε α} {e : ε} :
    (fun _ => ()) <$> x = .error e ↔ x = .error e := by
  cases x <;> simp [Functor.map, Except.map]

/-- Reading all items succeeds exactly if each of them can be read. -/
theorem forM_eq_ok_iff {ε α : Type} {l : List α} {f : α → Except ε Unit} :
    forM l f = .ok () ↔ ∀ a ∈ l, f a = .ok () := by
  induction l with
  | nil => simp [pure, Except.pure]
  | cons a l ih =>
      rw [List.forM_cons, List.forall_mem_cons, ← ih]
      cases f a with
      | error e => simp [bind, Except.bind]
      | ok _ => simp [bind, Except.bind]

/-- A pass over a list ends with the fault of the first element that has one. -/
theorem forM_eq_error_iff {ε α : Type} {l : List α} {f : α → Except ε Unit} {e : ε} :
    forM l f = .error e ↔ ∃ before a after, l = before ++ a :: after ∧
      (∀ b ∈ before, f b = .ok ()) ∧ f a = .error e := by
  induction l with
  | nil => simp [pure, Except.pure]
  | cons b l ih =>
      rw [List.forM_cons]
      cases hHead : f b with
      | error fault =>
          constructor
          · intro hSame
            exact ⟨[], b, l, rfl, nofun, hHead.trans hSame⟩
          · rintro ⟨before, a, after, hSplit, hBefore, hFault⟩
            cases before with
            | nil =>
                cases hSplit
                exact hHead.symm.trans hFault
            | cons c before =>
                cases hSplit
                rw [hBefore b List.mem_cons_self] at hHead
                cases hHead
      | ok =>
          change forM l f = .error e ↔ _
          rw [ih]
          constructor
          · rintro ⟨before, a, after, rfl, hBefore, hFault⟩
            exact ⟨b :: before, a, after, rfl, List.forall_mem_cons.mpr ⟨hHead, hBefore⟩, hFault⟩
          · rintro ⟨before, a, after, hSplit, hBefore, hFault⟩
            cases before with
            | nil =>
                cases hSplit
                rw [hHead] at hFault
                cases hFault
            | cons c before =>
                cases hSplit
                exact ⟨before, a, after, rfl, (List.forall_mem_cons.mp hBefore).2, hFault⟩

namespace Text

/-- One letter, in either case. Only the letters of ASCII have two. -/
inductive SameLetter : Char → Char → Prop where
  | refl (c : Char) : SameLetter c c
  | capital {c d : Char} (hLow : 'A' ≤ c) (hHigh : c ≤ 'Z') (hSmall : d.toNat = c.toNat + 32) :
      SameLetter c d
  | small {c d : Char} (hLow : 'A' ≤ d) (hHigh : d ≤ 'Z') (hSmall : c.toNat = d.toNat + 32) :
      SameLetter c d

theorem toNat_toLower (c : Char) :
    c.toLower.toNat = if 65 ≤ c.toNat ∧ c.toNat ≤ 90 then c.toNat + 32 else c.toNat := by
  have hRange : (c.val ≥ 'A'.val ∧ c.val ≤ 'Z'.val) ↔ 65 ≤ c.toNat ∧ c.toNat ≤ 90 :=
    and_congr UInt32.le_iff_toNat_le UInt32.le_iff_toNat_le
  by_cases hCapital : c.val ≥ 'A'.val ∧ c.val ≤ 'Z'.val
  · have hLower : c.toLower.val = c.val + 32 := congrArg Char.val (dif_pos hCapital)
    have hLt : c.val.toNat + 32 < 2 ^ 32 := by
      have hHigh : c.val.toNat ≤ 90 := (hRange.mp hCapital).2
      omega
    rw [if_pos (hRange.mp hCapital), ← Char.toNat_val, hLower, UInt32.toNat_add]
    exact Nat.mod_eq_of_lt hLt
  · have hSame : c.toLower = c := dif_neg hCapital
    rw [if_neg (mt hRange.mpr hCapital), hSame]

/-- Two characters are one letter exactly if they are the same in small letters. -/
theorem sameLetter_iff {c d : Char} : SameLetter c d ↔ c.toLower = d.toLower := by
  have hA : 'A'.toNat = 65 ∧ 'Z'.toNat = 90 := ⟨rfl, rfl⟩
  rw [← Char.toNat_inj, toNat_toLower, toNat_toLower]
  constructor
  · intro hSame
    cases hSame with
    | refl => rfl
    | capital hLow hHigh hSmall =>
        rw [Hex.char_le_iff_toNat_le] at hLow hHigh
        rw [if_pos (by omega), if_neg (by omega), hSmall]
    | small hLow hHigh hSmall =>
        rw [Hex.char_le_iff_toNat_le] at hLow hHigh
        rw [if_neg (by omega), if_pos (by omega), hSmall]
  · intro hSame
    by_cases hC : 65 ≤ c.toNat ∧ c.toNat ≤ 90 <;> by_cases hD : 65 ≤ d.toNat ∧ d.toNat ≤ 90 <;>
      simp only [hC, hD, if_false] at hSame
    · rw [Char.toNat_inj.mp (Nat.add_right_cancel hSame)]
      exact .refl d
    · exact .capital (Hex.char_le_iff_toNat_le.mpr hC.1) (Hex.char_le_iff_toNat_le.mpr hC.2)
        hSame.symm
    · exact .small (Hex.char_le_iff_toNat_le.mpr hD.1) (Hex.char_le_iff_toNat_le.mpr hD.2) hSame
    · rw [Char.toNat_inj.mp hSame]
      exact .refl d

/-- A text is a name in small letters, letter by letter, exactly if it is so in small letters. -/
theorem forall₂_sameLetter_iff {cs name : List Char} (hSmall : name.map Char.toLower = name) :
    List.Forall₂ SameLetter cs name ↔ cs.map Char.toLower = name := by
  have hRelation : SameLetter = fun c d => c.toLower = d.toLower := by
    funext c d
    exact propext sameLetter_iff
  calc List.Forall₂ SameLetter cs name
    _ ↔ List.Forall₂ (· = ·) (cs.map Char.toLower) (name.map Char.toLower) := by
      rw [hRelation, List.forall₂_map_left_iff, List.forall₂_map_right_iff]
    _ ↔ cs.map Char.toLower = name := by rw [hSmall, List.forall₂_eq_eq_eq]

end Text

namespace Layout

def names : Layout → List String
  | compact => ["compact"]
  | selfDescribing => ["self-describing", "self_describing"]

/-- A text is one of the names, up to the case of ASCII letters. -/
def IsNamed (layout : Layout) (cs : List Char) : Prop :=
  ∃ name ∈ layout.names, List.Forall₂ Text.SameLetter cs name.toList

/-- Names are in small letters, so that a text is compared to them in small letters. -/
theorem isNamed_iff {layout : Layout} {cs : List Char} :
    layout.IsNamed cs ↔ String.ofList (cs.map Char.toLower) ∈ layout.names := by
  have hSmall : ∀ name ∈ layout.names, name.toList.map Char.toLower = name.toList := by
    cases layout <;> decide
  constructor
  · rintro ⟨name, hMem, hSame⟩
    rwa [(Text.forall₂_sameLetter_iff (hSmall name hMem)).mp hSame, String.ofList_toList]
  · intro hMem
    refine ⟨_, hMem, (Text.forall₂_sameLetter_iff (hSmall _ hMem)).mpr ?_⟩
    rw [String.toList_ofList]

/-- The reader of layouts accepts exactly their names. -/
theorem ofText_eq_ok_iff {text : String} {layout : Layout} :
    ofText text = .ok layout ↔ layout.IsNamed (Text.trim text.toList) := by
  rw [isNamed_iff, ofText]
  generalize String.ofList ((Text.trim text.toList).map Char.toLower) = name
  cases layout <;> grind [names]

/-- A text is refused exactly if it is none of the names, and is then told in small letters and
without the blanks at its ends. -/
theorem ofText_eq_error_iff {text : String} {fault : PolicyFault} :
    ofText text = .error fault ↔ (∀ layout : Layout, ¬ layout.IsNamed (Text.trim text.toList)) ∧
      fault = .unknownLayout (String.ofList ((Text.trim text.toList).map Char.toLower)) := by
  simp only [isNamed_iff]
  rw [ofText]
  generalize String.ofList ((Text.trim text.toList).map Char.toLower) = name
  constructor
  · intro hError
    refine ⟨fun layout => ?_, by grind⟩
    cases layout <;> grind [names]
  · rintro ⟨hNone, rfl⟩
    have hCompact := hNone .compact
    have hSelfDescribing := hNone .selfDescribing
    grind [names]

end Layout

namespace Settings

/-- A variable for a number: the width of the number in bits, and the number that counts without the
variable. -/
structure NumberVariable where
  name : String
  bits : Nat
  default : Nat
  default_lt : default < 2 ^ bits

namespace NumberVariable

def workFactor : NumberVariable := ⟨"CREDENTIAL_WORK_FACTOR", 64, 16384, by decide⟩

def blockSize : NumberVariable := ⟨"CREDENTIAL_BLOCK_SIZE", 32, 8, by decide⟩

def parallelism : NumberVariable := ⟨"CREDENTIAL_PARALLELISM", 32, 1, by decide⟩

def maxMemory : NumberVariable := ⟨"CREDENTIAL_MAX_MEMORY", 64, 33554432, by decide⟩

def maxInFlight : NumberVariable := ⟨"CREDENTIAL_MAX_IN_FLIGHT", 64, 4, by decide⟩

variable (v : NumberVariable) (given : String → Option String)

inductive Says : Nat → Prop where
  | absent (hNone : given v.name = none) : Says v.default
  | present {value : String} {core : List Char} {n : Nat} (hValue : given v.name = some value)
      (hTrimmed : Text.Trimmed value.toList core) (hSpells : Decimal.Spells core n)
      (hLt : n < 2 ^ v.bits) : Says n

end NumberVariable

inductive SaysLayout (given : String → Option String) : Layout → Prop where
  | absent (hNone : given "CREDENTIAL_FORMAT" = none) : SaysLayout given .selfDescribing
  | present {value : String} {core : List Char} {layout : Layout}
      (hValue : given "CREDENTIAL_FORMAT" = some value)
      (hTrimmed : Text.Trimmed value.toList core) (hNamed : layout.IsNamed core) :
      SaysLayout given layout

/-- The text of the password. The second variable counts only without the first, be this empty. -/
inductive SaysPassword (given : String → Option String) : String → Prop where
  | first {text : String} (hText : given "CREDENTIAL_PASSWORD" = some text) :
      SaysPassword given text
  | second {text : String} (hNone : given "CREDENTIAL_PASSWORD" = none)
      (hText : given "BSKY_TEST_PASSWORD" = some text) : SaysPassword given text

/-- The record of its variable. A blank text is no record. -/
inductive SaysRecord (given : String → Option String) : Option Record → Prop where
  | absent (hNone : given "CREDENTIAL_RECORD" = none) : SaysRecord given none
  | blank {value : String} (hValue : given "CREDENTIAL_RECORD" = some value)
      (hBlank : ∀ c ∈ value.toList, Text.isBlank c = true) : SaysRecord given none
  | present {value : String} {record : Record} (hValue : given "CREDENTIAL_RECORD" = some value)
      (hTrimmed : Text.Trimmed value.toList record.text.toList) (hNonempty : record.text ≠ "") :
      SaysRecord given (some record)

/-- Settings in which each part is that of its own variable, and the lengths of salt and key are the
standard ones. -/
structure Describes (given : String → Option String) (s : Settings) : Prop where
  workFactor : NumberVariable.workFactor.Says given s.policy.workFactor.toNat
  blockSize : NumberVariable.blockSize.Says given s.policy.blockSize.toNat
  parallelism : NumberVariable.parallelism.Says given s.policy.parallelism.toNat
  maxMemory : NumberVariable.maxMemory.Says given s.policy.maxMemory.toNat
  layout : SaysLayout given s.policy.layout
  saltLength : s.policy.saltLength = 16
  keyLength : s.policy.keyLength = 64
  maxInFlight : NumberVariable.maxInFlight.Says given s.maxInFlight.toNat
  password : ∃ text, SaysPassword given text ∧ s.password.bytes = Utf8.encode text
  record : SaysRecord given s.record

/-- What has to be read before there are settings. -/
inductive Item where
  | number (v : NumberVariable)
  | layout
  | password

def items : List Item :=
  [.number .workFactor, .number .blockSize, .number .parallelism, .number .maxMemory, .layout,
    .number .maxInFlight, .password]

namespace Item

variable (given : String → Option String)

def Acceptable : Item → Prop
  | number v => ∃ n, v.Says given n
  | layout => ∃ layout, SaysLayout given layout
  | password => ∃ text, SaysPassword given text ∧ text ≠ ""

/-- The fault of an item that cannot be read. A number is reported with its text as it stands, a
layout in small letters and without the blanks at the ends. -/
inductive Complains : Item → SettingsFault → Prop where
  | number {v : NumberVariable} {value : String} {core : List Char} {cause : Decimal.Fault}
      (hValue : given v.name = some value) (hTrimmed : Text.Trimmed value.toList core)
      (hMisspells : Decimal.Misspells (2 ^ v.bits - 1) core cause) :
      Complains (.number v) (.number v.name value cause)
  | layout {value : String} {core : List Char} (hValue : given "CREDENTIAL_FORMAT" = some value)
      (hTrimmed : Text.Trimmed value.toList core)
      (hUnknown : ∀ layout : Layout, ¬ layout.IsNamed core) :
      Complains .layout (.layout (.unknownLayout (String.ofList (core.map Char.toLower))))
  | missingPassword (hNone : ∀ text, ¬ SaysPassword given text) :
      Complains .password .missingPassword
  | emptyPassword (hEmpty : SaysPassword given "") : Complains .password .emptyPassword

def read : Item → Except SettingsFault Unit
  | number v => (fun _ => ()) <$> numberIn given v.name (2 ^ v.bits - 1) v.default
  | layout => (fun _ => ()) <$> layoutIn given
  | password => (fun _ => ()) <$> passwordIn given

end Item

namespace NumberVariable

variable {v : NumberVariable} {given : String → Option String} {n : Nat}

/-- The reader of a number gives what its variable says. -/
theorem numberIn_eq_ok_iff :
    numberIn given v.name (2 ^ v.bits - 1) v.default = .ok n ↔ v.Says given n := by
  rw [numberIn]
  constructor
  · intro hOk
    split at hOk
    · cases hOk
      exact .absent ‹_›
    · rename_i hValue
      split at hOk
      · rename_i hRead
        cases hOk
        obtain ⟨hSpells, hLe⟩ := Decimal.read_eq_ok_iff.mp hRead
        have hPos : 0 < 2 ^ v.bits := Nat.two_pow_pos v.bits
        exact .present hValue (Text.trimmed_trim _) hSpells (by omega)
      · cases hOk
  · intro hSays
    cases hSays with
    | absent hNone => rw [hNone]
    | present hValue hTrimmed hSpells hLt =>
        have hRead := Decimal.read_eq_ok_iff.mpr ⟨hSpells, Nat.le_sub_one_of_lt hLt⟩
        simp only [hValue, hTrimmed.trim_eq, hRead]

/-- The reader of a number fails exactly with the complaint about its variable. -/
theorem numberIn_eq_error_iff {fault : SettingsFault} :
    numberIn given v.name (2 ^ v.bits - 1) v.default = .error fault ↔
      Item.Complains given (.number v) fault := by
  rw [numberIn]
  constructor
  · intro hError
    split at hError
    · cases hError
    · rename_i value hValue
      split at hError
      · cases hError
      · rename_i cause hRead
        cases hError
        exact .number hValue (Text.trimmed_trim _) (Decimal.read_eq_error_iff.mp hRead)
  · intro hComplains
    cases hComplains with
    | number hValue hTrimmed hMisspells =>
        simp only [hValue, hTrimmed.trim_eq, Decimal.read_eq_error_iff.mpr hMisspells]

/-- A number that a variable says fits in its width, the default included. -/
theorem Says.lt (hSays : v.Says given n) : n < 2 ^ v.bits := by
  cases hSays with
  | absent => exact v.default_lt
  | present _ _ _ hLt => exact hLt

/-- A number that a variable says fits a word of its width. -/
theorem Says.toUInt64 (hSays : v.Says given n) (hBits : v.bits = 64) :
    v.Says given n.toUInt64.toNat := by
  have hLt := hSays.lt
  rw [hBits] at hLt
  rwa [Nat.toUInt64, UInt64.toNat_ofNat_of_lt' hLt]

theorem Says.toUInt32 (hSays : v.Says given n) (hBits : v.bits = 32) :
    v.Says given n.toUInt32.toNat := by
  have hLt := hSays.lt
  rw [hBits] at hLt
  rwa [Nat.toUInt32, UInt32.toNat_ofNat_of_lt' hLt]

end NumberVariable

section

variable {given : String → Option String} {fault : SettingsFault}

theorem layoutIn_eq_ok_iff {layout : Layout} :
    layoutIn given = .ok layout ↔ SaysLayout given layout := by
  rw [layoutIn]
  constructor
  · intro hOk
    split at hOk
    · cases hOk
      exact .absent ‹_›
    · split at hOk
      · rename_i hValue _ _ hLayout
        cases hOk
        exact .present hValue (Text.trimmed_trim _) (Layout.ofText_eq_ok_iff.mp hLayout)
      · cases hOk
  · intro hSays
    cases hSays with
    | absent hNone => rw [hNone]; rfl
    | present hValue hTrimmed hNamed =>
        rw [← hTrimmed.trim_eq] at hNamed
        simp only [hValue, Layout.ofText_eq_ok_iff.mpr hNamed]

/-- The reader of the layout fails exactly with the complaint about it. -/
theorem layoutIn_eq_error_iff :
    layoutIn given = .error fault ↔ Item.Complains given .layout fault := by
  rw [layoutIn]
  constructor
  · intro hError
    split at hError
    · cases hError
    · split at hError
      · cases hError
      · rename_i hValue _ _ hLayout
        obtain ⟨hUnknown, rfl⟩ := Layout.ofText_eq_error_iff.mp hLayout
        cases hError
        exact .layout hValue (Text.trimmed_trim _) hUnknown
  · intro hComplains
    cases hComplains with
    | layout hValue hTrimmed hUnknown =>
        rw [← hTrimmed.trim_eq] at hUnknown ⊢
        simp only [hValue, Layout.ofText_eq_error_iff.mpr ⟨hUnknown, rfl⟩]

/-- The first of the two variables that has a text says the password. -/
theorem saysPassword_iff {text : String} :
    SaysPassword given text ↔
      (given "CREDENTIAL_PASSWORD" <|> given "BSKY_TEST_PASSWORD") = some text := by
  constructor
  · intro hSays
    cases hSays with
    | first hText => rw [hText]; rfl
    | second hNone hText => rw [hNone, hText]; rfl
  · intro hText
    cases hFirst : given "CREDENTIAL_PASSWORD" with
    | none =>
        rw [hFirst] at hText
        exact .second hFirst hText
    | some first =>
        rw [hFirst] at hText
        exact .first (hFirst.trans hText)

/-- The password is made of the bytes of the text that is said, which must not be empty. -/
theorem passwordIn_eq_ok_iff {password : Password} :
    passwordIn given = .ok password ↔
      ∃ text, SaysPassword given text ∧ password.bytes = Utf8.encode text := by
  simp only [saysPassword_iff]
  rw [passwordIn]
  constructor
  · intro hOk
    split at hOk
    · cases hOk
    · rename_i text hText
      split at hOk
      · rename_i hPassword
        cases hOk
        exact ⟨text, hText, Password.ofBytes_eq_ok_iff.mp hPassword⟩
      · cases hOk
  · rintro ⟨text, hText, hBytes⟩
    simp only [hText, Password.ofBytes_eq_ok_iff.mpr hBytes]

/-- The reader of the password fails exactly with the complaint about it, be the password missing or
empty. -/
theorem passwordIn_eq_error_iff :
    passwordIn given = .error fault ↔ Item.Complains given .password fault := by
  rw [passwordIn]
  constructor
  · intro hError
    split at hError
    · rename_i hNone
      cases hError
      refine .missingPassword fun text hSays => ?_
      rw [saysPassword_iff, hNone] at hSays
      cases hSays
    · rename_i text hText
      split at hError
      · cases hError
      · rename_i hPassword
        cases hError
        obtain ⟨hEmpty, -⟩ := Password.ofBytes_eq_error_iff.mp hPassword
        obtain rfl : text = "" := Utf8.encode_injective hEmpty
        exact .emptyPassword (saysPassword_iff.mpr hText)
  · intro hComplains
    cases hComplains with
    | missingPassword hNone =>
        simp only [saysPassword_iff] at hNone
        rw [Option.eq_none_iff_forall_ne_some.mpr hNone]
    | emptyPassword hEmpty =>
        rw [saysPassword_iff.mp hEmpty]
        rfl

theorem saysRecord_recordIn (given : String → Option String) :
    SaysRecord given (recordIn given) := by
  rw [recordIn]
  split
  · exact .absent ‹_›
  · rename_i value hValue
    split
    · rename_i hBlank
      exact .blank hValue (Text.trim_eq_nil_iff.mp hBlank)
    · rename_i hNonempty
      refine .present hValue ?_ ?_
      · rw [String.toList_ofList]
        exact Text.trimmed_trim _
      · simpa using hNonempty

/-- The record is the one that its variable says. Reading it cannot fail. -/
theorem recordIn_eq_iff {record : Option Record} :
    recordIn given = record ↔ SaysRecord given record := by
  constructor
  · rintro rfl
    exact saysRecord_recordIn given
  · intro hSays
    cases hSays with
    | absent hNone => rw [recordIn, hNone]
    | blank hValue hBlank => simp only [recordIn, hValue, Text.trim_eq_nil_iff.mpr hBlank]
    | present hValue hTrimmed hNonempty =>
        have hBlank := hTrimmed.trim_eq
        rw [recordIn_of_text hValue (by rw [hBlank]; simpa using hNonempty), hBlank,
          String.ofList_toList]

end

namespace Item

variable {given : String → Option String} {item : Item} {fault : SettingsFault}

/-- An item is read exactly if it is acceptable. -/
theorem read_eq_ok_iff : item.read given = .ok () ↔ item.Acceptable given := by
  cases item with
  | number v => simp only [read, map_unit_eq_ok_iff, NumberVariable.numberIn_eq_ok_iff, Acceptable]
  | layout => simp only [read, map_unit_eq_ok_iff, layoutIn_eq_ok_iff, Acceptable]
  | password =>
      simp only [read, map_unit_eq_ok_iff, passwordIn_eq_ok_iff, Acceptable]
      constructor
      · rintro ⟨password, text, hSays, hBytes⟩
        refine ⟨text, hSays, ?_⟩
        rintro rfl
        exact password.nonempty hBytes
      · rintro ⟨text, hSays, hNonempty⟩
        exact ⟨⟨Utf8.encode text, fun hNil => hNonempty (Utf8.encode_injective hNil)⟩, text, hSays,
          rfl⟩

/-- An item is refused exactly with the complaint about it. -/
theorem read_eq_error_iff : item.read given = .error fault ↔ item.Complains given fault := by
  cases item with
  | number v => rw [read, map_unit_eq_error_iff, NumberVariable.numberIn_eq_error_iff]
  | layout => rw [read, map_unit_eq_error_iff, layoutIn_eq_error_iff]
  | password => rw [read, map_unit_eq_error_iff, passwordIn_eq_error_iff]

theorem Complains.not_acceptable (hComplains : item.Complains given fault) :
    ¬ item.Acceptable given := by
  rw [← read_eq_ok_iff, read_eq_error_iff.mpr hComplains]
  exact nofun

end Item

/-- Settings are read item by item, in order. -/
theorem forM_read_items (given : String → Option String) :
    forM items (Item.read given) = (fun _ => ()) <$> ofVariables given := by
  simp only [items, List.forM_cons, List.forM_nil, Item.read, bind_map_left, ofVariables, map_bind,
    map_pure]
  rfl

theorem describes_of_ofVariables {given : String → Option String} {s : Settings}
    (hOk : ofVariables given = .ok s) : Describes given s := by
  obtain ⟨workFactor, hWorkFactor, hRest⟩ := exists_of_bind_eq_ok hOk
  obtain ⟨blockSize, hBlockSize, hRest⟩ := exists_of_bind_eq_ok hRest
  obtain ⟨parallelism, hParallelism, hRest⟩ := exists_of_bind_eq_ok hRest
  obtain ⟨maxMemory, hMaxMemory, hRest⟩ := exists_of_bind_eq_ok hRest
  obtain ⟨layout, hLayout, hRest⟩ := exists_of_bind_eq_ok hRest
  obtain ⟨maxInFlight, hMaxInFlight, hRest⟩ := exists_of_bind_eq_ok hRest
  obtain ⟨password, hPassword, hRest⟩ := exists_of_bind_eq_ok hRest
  cases hRest
  have hWorkFactor : NumberVariable.workFactor.Says given workFactor :=
    NumberVariable.numberIn_eq_ok_iff.mp hWorkFactor
  have hBlockSize : NumberVariable.blockSize.Says given blockSize :=
    NumberVariable.numberIn_eq_ok_iff.mp hBlockSize
  have hParallelism : NumberVariable.parallelism.Says given parallelism :=
    NumberVariable.numberIn_eq_ok_iff.mp hParallelism
  have hMaxMemory : NumberVariable.maxMemory.Says given maxMemory :=
    NumberVariable.numberIn_eq_ok_iff.mp hMaxMemory
  have hMaxInFlight : NumberVariable.maxInFlight.Says given maxInFlight :=
    NumberVariable.numberIn_eq_ok_iff.mp hMaxInFlight
  exact {
    workFactor := hWorkFactor.toUInt64 rfl
    blockSize := hBlockSize.toUInt32 rfl
    parallelism := hParallelism.toUInt32 rfl
    maxMemory := hMaxMemory.toUInt64 rfl
    layout := layoutIn_eq_ok_iff.mp hLayout
    saltLength := rfl
    keyLength := rfl
    maxInFlight := hMaxInFlight.toUInt64 rfl
    password := passwordIn_eq_ok_iff.mp hPassword
    record := saysRecord_recordIn given }

/-- Settings that the variables describe are the ones that are read. -/
theorem Describes.ofVariables {given : String → Option String} {s : Settings}
    (h : Describes given s) : ofVariables given = .ok s := by
  obtain ⟨⟨workFactor, blockSize, parallelism, maxMemory, saltLength, keyLength, layout⟩,
    maxInFlight, password, record⟩ := s
  have hWorkFactor : numberIn given "CREDENTIAL_WORK_FACTOR" (UInt64.size - 1)
      Policy.standard.workFactor.toNat = .ok workFactor.toNat :=
    NumberVariable.numberIn_eq_ok_iff.mpr h.workFactor
  have hBlockSize : numberIn given "CREDENTIAL_BLOCK_SIZE" (UInt32.size - 1)
      Policy.standard.blockSize.toNat = .ok blockSize.toNat :=
    NumberVariable.numberIn_eq_ok_iff.mpr h.blockSize
  have hParallelism : numberIn given "CREDENTIAL_PARALLELISM" (UInt32.size - 1)
      Policy.standard.parallelism.toNat = .ok parallelism.toNat :=
    NumberVariable.numberIn_eq_ok_iff.mpr h.parallelism
  have hMaxMemory : numberIn given "CREDENTIAL_MAX_MEMORY" (UInt64.size - 1)
      Policy.standard.maxMemory.toNat = .ok maxMemory.toNat :=
    NumberVariable.numberIn_eq_ok_iff.mpr h.maxMemory
  have hLayout : layoutIn given = .ok layout := layoutIn_eq_ok_iff.mpr h.layout
  have hMaxInFlight : numberIn given "CREDENTIAL_MAX_IN_FLIGHT" (UInt64.size - 1)
      standardInFlight = .ok maxInFlight.toNat :=
    NumberVariable.numberIn_eq_ok_iff.mpr h.maxInFlight
  have hPassword : passwordIn given = .ok password := passwordIn_eq_ok_iff.mpr h.password
  obtain rfl : saltLength = 16 := h.saltLength
  obtain rfl : keyLength = 64 := h.keyLength
  simp only [Settings.ofVariables, hWorkFactor, hBlockSize, hParallelism, hMaxMemory, hLayout,
    hMaxInFlight, hPassword, recordIn_eq_iff.mpr h.record, bind, Except.bind, Nat.toUInt64,
    Nat.toUInt32, UInt64.ofNat_toNat, UInt32.ofNat_toNat]
  rfl

/-- What variables say is what the settings are. Settings are read exactly if each item can be
accepted: a number is absent or, without the blanks at its ends, digits after at most one plus sign
that fit its width; a layout is absent or, without the blanks at its ends, one of its names in any
case; a password is present and not empty, where the second variable is looked at only without the
first. Each part is then that of its own variable or the default, the password with its blanks and
the record without them. Otherwise the first item that cannot be accepted is complained of. -/
theorem variables_decide_settings (given : String → Option String) :
    (∀ s, ofVariables given = .ok s ↔ Describes given s) ∧
      ((∃ s, ofVariables given = .ok s) ↔ ∀ item ∈ items, item.Acceptable given) ∧
      ∀ fault, ofVariables given = .error fault ↔
        ∃ before item after, items = before ++ item :: after ∧
          (∀ earlier ∈ before, earlier.Acceptable given) ∧
          ¬ item.Acceptable given ∧ item.Complains given fault := by
  refine ⟨fun s => ⟨describes_of_ofVariables, Describes.ofVariables⟩, ?_, fun fault => ?_⟩
  · simp only [← map_unit_eq_ok_iff, ← forM_read_items, forM_eq_ok_iff, Item.read_eq_ok_iff]
  · rw [← map_unit_eq_error_iff, ← forM_read_items, forM_eq_error_iff]
    simp only [Item.read_eq_ok_iff, Item.read_eq_error_iff]
    refine exists₃_congr fun before item after =>
      and_congr_right fun _ => and_congr_right fun _ => ?_
    exact (and_iff_right_of_imp Item.Complains.not_acceptable).symm

/-- An empty password in the first variable is not made up for by the second. -/
example : ofVariables (fun name =>
      [("CREDENTIAL_PASSWORD", ""), ("BSKY_TEST_PASSWORD", "p")].lookup name) =
    .error .emptyPassword := rfl

end Settings

end PasswordHashing
