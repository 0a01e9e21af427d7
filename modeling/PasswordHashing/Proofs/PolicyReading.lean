import Mathlib.Data.List.Nodup
import PasswordHashing.Policy.Json
import PasswordHashing.Proofs.JsonGrammar

/-! Policies read from JSON. What a member or an item of a text says is told by relations between
values and policies; a policy is read exactly if it is what the text says, and as the standard
policy in all else. Since the relations know no order, the members of an object have none either,
and an array differs from an object only in how settings are named. -/
namespace PasswordHashing

/-- A value that is a natural number: digits alone. -/
inductive Natural : Json.Value → Nat → Prop where
  | intro {digits : List Char} (hDigits : ∀ c ∈ digits, c.isDigit = true) :
      Natural (.number digits) (Nat.ofDigitChars 10 digits 0)

/-- A value that names a layout: its name, or an object with the name as its only key, of which
nothing more is said. -/
inductive Layout.Named : Json.Value → Layout → Prop where
  | name {layout : Layout} : Named (.string (some layout.name)) layout
  | key {layout : Layout} : Named (.object [(some layout.name, .null)]) layout

/-- A value that gives a setting what it is in a policy. Numbers out of range are in none. -/
def Setting.Holds (p : Policy) (v : Json.Value) : Setting → Prop
  | .workFactor => Natural v p.workFactor.toNat
  | .blockSize => Natural v p.blockSize.toNat
  | .parallelism => Natural v p.parallelism.toNat
  | .maxMemory => Natural v p.maxMemory.toNat
  | .saltLength => Natural v p.saltLength.toNat
  | .keyLength => Natural v p.keyLength.toNat
  | .layout => Layout.Named v p.layout

/-- A policy with some settings as they are in another one. -/
def Policy.override (p other : Policy) (settings : List Setting) : Policy where
  workFactor := if .workFactor ∈ settings then other.workFactor else p.workFactor
  blockSize := if .blockSize ∈ settings then other.blockSize else p.blockSize
  parallelism := if .parallelism ∈ settings then other.parallelism else p.parallelism
  maxMemory := if .maxMemory ∈ settings then other.maxMemory else p.maxMemory
  saltLength := if .saltLength ∈ settings then other.saltLength else p.saltLength
  keyLength := if .keyLength ∈ settings then other.keyLength else p.keyLength
  layout := if .layout ∈ settings then other.layout else p.layout

/-- The settings that members name. -/
def Setting.given (members : List (Option String × Json.Value)) : List Setting :=
  members.filterMap fun (key, _) => key.bind Setting.ofName?

/-- A number is accepted if it is a natural one within the bound. Signs, fractions and exponents are
refused even where the value would be natural. -/
theorem natural?_eq_some_iff {bound n : Nat} {v : Json.Value} :
    Policy.natural? bound v = some n ↔ Natural v n ∧ n ≤ bound := by
  constructor
  · intro h
    unfold Policy.natural? at h
    split at h
    · split at h
      · rename_i hRead
        cases h
        obtain ⟨hDigits, rfl, hLe⟩ := (Decimal.readDigits_eq_ok_iff (Nat.zero_le _)).mp hRead
        exact ⟨.intro hDigits, hLe⟩
      · cases h
    · cases h
  · rintro ⟨⟨hDigits⟩, hLe⟩
    rw [Policy.natural?, (Decimal.readDigits_eq_ok_iff (Nat.zero_le _)).mpr ⟨hDigits, rfl, hLe⟩]

theorem word?_eq_some_iff {v : Json.Value} {n : UInt64} :
    Policy.word? v = some n ↔ Natural v n.toNat := by
  have hBound : n.toNat ≤ UInt64.size - 1 := by
    have := n.toNat_lt
    rw [UInt64.size]
    omega
  simp only [Policy.word?, Option.map_eq_some_iff, natural?_eq_some_iff]
  constructor
  · rintro ⟨m, ⟨hNatural, hLe⟩, rfl⟩
    have hValue : m.toUInt64.toNat = m := by
      rw [UInt64.size] at hLe
      rw [Nat.toUInt64, UInt64.toNat_ofNat']
      omega
    rwa [hValue]
  · intro hNatural
    exact ⟨n.toNat, ⟨hNatural, hBound⟩, by simp⟩

theorem half?_eq_some_iff {v : Json.Value} {n : UInt32} :
    Policy.half? v = some n ↔ Natural v n.toNat := by
  have hBound : n.toNat ≤ UInt32.size - 1 := by
    have := n.toNat_lt
    rw [UInt32.size]
    omega
  simp only [Policy.half?, Option.map_eq_some_iff, natural?_eq_some_iff]
  constructor
  · rintro ⟨m, ⟨hNatural, hLe⟩, rfl⟩
    have hValue : m.toUInt32.toNat = m := by
      rw [UInt32.size] at hLe
      rw [Nat.toUInt32, UInt32.toNat_ofNat']
      omega
    rwa [hValue]
  · intro hNatural
    exact ⟨n.toNat, ⟨hNatural, hBound⟩, by simp⟩

theorem named_eq_some_iff {text : Option String} {layout : Layout} :
    Policy.layout?.named text = some layout ↔ text = some layout.name := by
  constructor
  · intro hFind
    simpa [Policy.layout?.named] using List.find?_some hFind
  · rintro rfl
    cases layout <;> rfl

/-- A layout is accepted in exactly the two forms that name it. -/
theorem layout?_eq_some_iff {v : Json.Value} {layout : Layout} :
    Policy.layout? v = some layout ↔ Layout.Named v layout := by
  constructor
  · intro h
    unfold Policy.layout? at h
    split at h
    · rw [named_eq_some_iff] at h
      rw [h]
      exact .name
    · rw [named_eq_some_iff] at h
      rw [h]
      exact .key
    · cases h
  · rintro (_ | _)
    · exact named_eq_some_iff.mpr rfl
    · exact named_eq_some_iff.mpr rfl

/-- A setting is known by its name as it is written. -/
theorem Setting.ofName?_eq_some_iff {name : String} {s : Setting} :
    Setting.ofName? name = some s ↔ name = s.name := by
  constructor
  · intro hFind
    simpa [eq_comm] using List.find?_some hFind
  · rintro rfl
    cases s <;> rfl

namespace Policy

/-- A setting is given a value exactly if the value can be one of this setting; nothing else
changes. -/
theorem set?_eq_some_iff {p q : Policy} {s : Setting} {v : Json.Value} :
    p.set? s v = some q ↔ s.Holds q v ∧ p.override q [s] = q := by
  cases s
  all_goals
    simp only [set?, Option.map_eq_some_iff, word?_eq_some_iff, half?_eq_some_iff,
      layout?_eq_some_iff, Setting.Holds, override, List.mem_singleton, reduceCtorEq, if_true,
      if_false]
    constructor
    · rintro ⟨_, hHolds, rfl⟩
      exact ⟨hHolds, rfl⟩
    · rintro ⟨hHolds, hEq⟩
      exact ⟨_, hHolds, hEq⟩

/-- Settings taken from one policy in two steps. -/
theorem override_override (p q : Policy) (first second : List Setting) :
    (p.override q first).override q second = p.override q (first ++ second) := by
  simp only [override, List.mem_append, mk.injEq]
  refine ⟨?_, ?_, ?_, ?_, ?_, ?_, ?_⟩ <;> split <;> simp_all

theorem override_override_self (p q : Policy) (settings : List Setting) :
    p.override (p.override q settings) settings = p.override q settings := by
  simp only [override, mk.injEq]
  refine ⟨?_, ?_, ?_, ?_, ?_, ?_, ?_⟩ <;> split <;> rfl

/-- The order in which settings are taken over does not matter, nor does it how often. -/
theorem override_congr (p q : Policy) {first second : List Setting}
    (hSame : ∀ s, s ∈ first ↔ s ∈ second) : p.override q first = p.override q second := by
  simp only [override, hSame]

theorem override_nil (p q : Policy) : p.override q [] = p := by
  simp [override]

/-- A setting that is taken over is the one of the other policy. -/
theorem holds_override_of_mem {p q : Policy} {settings : List Setting} {s : Setting}
    {v : Json.Value} (hMem : s ∈ settings) : s.Holds (p.override q settings) v ↔ s.Holds q v := by
  cases s <;> simp only [Setting.Holds, override, if_pos hMem]

/-- A setting that is not taken over stays. -/
theorem holds_override_of_not_mem {p q : Policy} {settings : List Setting} {s : Setting}
    {v : Json.Value} (hNot : s ∉ settings) : s.Holds (p.override q settings) v ↔ s.Holds p v := by
  cases s <;> simp only [Setting.Holds, override, if_neg hNot]

/-- A setting is the same in a policy that differs in other settings only. -/
theorem override_override_of_not_mem (p next q : Policy) {s : Setting} {settings : List Setting}
    (hNot : s ∉ settings) : p.override (next.override q settings) [s] = p.override next [s] := by
  cases s <;> simp only [override, List.mem_singleton, reduceCtorEq, if_true, if_false, if_neg hNot]

/-- A value that a policy has for a setting can be given to any other policy, which then agrees with
it there. -/
theorem set?_of_holds {p q : Policy} {s : Setting} {v : Json.Value} (hHolds : s.Holds q v) :
    p.set? s v = some (p.override q [s]) := by
  refine set?_eq_some_iff.mpr ⟨(holds_override_of_mem List.mem_cons_self).mpr hHolds, ?_⟩
  cases s <;> simp only [override, List.mem_singleton, reduceCtorEq, if_true, if_false]

/-- Giving one setting a value and then taking others from a policy leads to that policy exactly if
it has the value and was right in all the rest before. -/
theorem exists_set?_iff {p q : Policy} {s : Setting} {v : Json.Value} {settings : List Setting}
    (hNot : s ∉ settings) :
    (∃ next, p.set? s v = some next ∧ next.override q settings = q) ↔
      s.Holds q v ∧ p.override q (s :: settings) = q := by
  constructor
  · rintro ⟨next, hSet, hRest⟩
    obtain ⟨hHolds, hNext⟩ := set?_eq_some_iff.mp hSet
    have hSame : p.override q [s] = next := by
      rw [← hRest, override_override_of_not_mem p next q hNot, hNext]
    constructor
    · rw [← hRest]
      exact (holds_override_of_not_mem hNot).mpr hHolds
    · rw [← List.singleton_append, ← override_override, hSame, hRest]
  · rintro ⟨hHolds, hRest⟩
    refine ⟨p.override q [s], set?_of_holds hHolds, ?_⟩
    rw [override_override, List.singleton_append, hRest]

theorem match_set?_eq_some_iff {p q : Policy} {s : Setting} {v : Json.Value}
    (goOn : Policy → Option Policy) :
    (match p.set? s v with
      | none => none
      | some next => goOn next) = some q ↔ ∃ next, p.set? s v = some next ∧ goOn next = some q := by
  cases p.set? s v <;> simp

/-- A policy that members describe as far as they go: each key has a text, no setting is named
twice, and the value of a named setting is the one it has. Of the values of other members nothing is
said. -/
structure Gives (q : Policy) (members : List (Option String × Json.Value)) : Prop where
  hasText : ∀ member ∈ members, member.1 ≠ none
  once : (Setting.given members).Nodup
  holds : ∀ member ∈ members, ∀ s : Setting, member.1 = some s.name → s.Holds q member.2

theorem given_cons_of_ofName? {key : String} {v : Json.Value} {s : Setting}
    (members : List (Option String × Json.Value)) (hName : Setting.ofName? key = some s) :
    Setting.given ((some key, v) :: members) = s :: Setting.given members := by
  simp [Setting.given, hName]

theorem given_cons_of_other {key : String} {v : Json.Value}
    (members : List (Option String × Json.Value)) (hName : Setting.ofName? key = none) :
    Setting.given ((some key, v) :: members) = Setting.given members := by
  simp [Setting.given, hName]

theorem gives_nil (q : Policy) : q.Gives [] :=
  ⟨by simp, List.nodup_nil, by simp⟩

/-- A member for a setting must have its value and be the only one for it. -/
theorem gives_cons_setting {q : Policy} {s : Setting} {v : Json.Value}
    {members : List (Option String × Json.Value)} :
    q.Gives ((some s.name, v) :: members) ↔
      s.Holds q v ∧ s ∉ Setting.given members ∧ q.Gives members := by
  have hName : Setting.ofName? s.name = some s := Setting.ofName?_eq_some_iff.mpr rfl
  constructor
  · rintro ⟨hText, hOnce, hHolds⟩
    rw [given_cons_of_ofName? members hName, List.nodup_cons] at hOnce
    rw [List.forall_mem_cons] at hText hHolds
    exact ⟨hHolds.1 s rfl, hOnce.1, hText.2, hOnce.2, hHolds.2⟩
  · rintro ⟨hHolds, hNot, hGives⟩
    refine ⟨List.forall_mem_cons.mpr ⟨by simp, hGives.hasText⟩, ?_,
      List.forall_mem_cons.mpr ⟨fun t hSame => ?_, hGives.holds⟩⟩
    · rw [given_cons_of_ofName? members hName]
      exact List.nodup_cons.mpr ⟨hNot, hGives.once⟩
    · obtain rfl : s = t := by
        rw [Option.some.injEq] at hSame
        rw [hSame, Setting.ofName?_eq_some_iff.mpr rfl] at hName
        exact (Option.some.inj hName).symm
      exact hHolds

/-- A member that names no setting may have any value. -/
theorem gives_cons_other {q : Policy} {key : String} {v : Json.Value}
    {members : List (Option String × Json.Value)} (hName : Setting.ofName? key = none) :
    q.Gives ((some key, v) :: members) ↔ q.Gives members := by
  constructor
  · rintro ⟨hText, hOnce, hHolds⟩
    rw [given_cons_of_other members hName] at hOnce
    rw [List.forall_mem_cons] at hText hHolds
    exact ⟨hText.2, hOnce, hHolds.2⟩
  · rintro ⟨hText, hOnce, hHolds⟩
    refine ⟨List.forall_mem_cons.mpr ⟨by simp, hText⟩, ?_,
      List.forall_mem_cons.mpr ⟨fun s hSame => ?_, hHolds⟩⟩
    · rwa [given_cons_of_other members hName]
    · rw [Setting.ofName?_eq_some_iff.mpr (Option.some.inj hSame)] at hName
      cases hName

/-- Members are read to a policy exactly if they describe it, and all that they do not name is as
before. -/
theorem readMembers_eq_some_iff {p q : Policy} {seen : List Setting}
    {members : List (Option String × Json.Value)} :
    p.readMembers seen members = some q ↔
      q.Gives members ∧ (∀ s ∈ Setting.given members, s ∉ seen) ∧
        p.override q (Setting.given members) = q := by
  induction members generalizing p seen with
  | nil =>
      simp only [readMembers, Option.some.injEq, gives_nil, Setting.given, List.filterMap_nil,
        override_nil, List.not_mem_nil, false_imp_iff, implies_true, true_and]
  | cons member members ih =>
      obtain ⟨_ | key, v⟩ := member
      · simp only [readMembers, reduceCtorEq, false_iff]
        exact fun h => h.1.hasText _ List.mem_cons_self rfl
      cases hName : Setting.ofName? key with
      | none =>
          simp only [readMembers, hName]
          rw [ih, gives_cons_other hName, given_cons_of_other members hName]
      | some s =>
          obtain rfl := Setting.ofName?_eq_some_iff.mp hName
          simp only [readMembers, hName]
          rw [gives_cons_setting, given_cons_of_ofName? members hName, List.forall_mem_cons]
          split
          · rename_i hSeen
            simp [hSeen]
          rename_i hNew
          refine (match_set?_eq_some_iff fun next => next.readMembers (s :: seen) members).trans ?_
          simp only [ih, List.mem_cons, not_or]
          constructor
          · rintro ⟨next, hSet, hGives, hFresh, hRest⟩
            have hNot : s ∉ Setting.given members := fun hMem => (hFresh s hMem).1 rfl
            obtain ⟨hHolds, hAll⟩ := (exists_set?_iff hNot).mp ⟨next, hSet, hRest⟩
            exact ⟨⟨hHolds, hNot, hGives⟩, ⟨hNew, fun t hMem => (hFresh t hMem).2⟩, hAll⟩
          · rintro ⟨⟨hHolds, hNot, hGives⟩, ⟨-, hFresh⟩, hAll⟩
            obtain ⟨next, hSet, hRest⟩ := (exists_set?_iff hNot).mpr ⟨hHolds, hAll⟩
            refine ⟨next, hSet, hGives, fun t hMem => ⟨?_, hFresh t hMem⟩, hRest⟩
            rintro rfl
            exact hNot hMem

/-- Items are read to a policy exactly if there are no more of them than settings, each is the value
of its setting, and all settings without an item are as before. -/
theorem readItems_eq_some_iff {p q : Policy} {settings : List Setting} {items : List Json.Value}
    (hNodup : settings.Nodup) :
    p.readItems settings items = some q ↔
      items.length ≤ settings.length ∧
        (∀ item ∈ settings.zip items, item.1.Holds q item.2) ∧
        p.override q (settings.take items.length) = q := by
  induction settings generalizing p items with
  | nil =>
      cases items with
      | nil => simp [readItems, override_nil]
      | cons v items => simp [readItems]
  | cons s settings ih =>
      cases items with
      | nil => simp [readItems, override_nil]
      | cons v items =>
          rw [List.nodup_cons] at hNodup
          have hNot : s ∉ settings.take items.length := fun hMem =>
            hNodup.1 (List.mem_of_mem_take hMem)
          simp only [readItems, List.length_cons, Nat.add_le_add_iff_right, List.zip_cons_cons,
            List.forall_mem_cons, List.take_succ_cons]
          refine (match_set?_eq_some_iff fun next => next.readItems settings items).trans ?_
          simp only [ih hNodup.2]
          constructor
          · rintro ⟨next, hSet, hLength, hItems, hRest⟩
            obtain ⟨hHolds, hAll⟩ := (exists_set?_iff hNot).mp ⟨next, hSet, hRest⟩
            exact ⟨hLength, ⟨hHolds, hItems⟩, hAll⟩
          · rintro ⟨hLength, ⟨hHolds, hItems⟩, hAll⟩
            obtain ⟨next, hSet, hRest⟩ := (exists_set?_iff hNot).mpr ⟨hHolds, hAll⟩
            exact ⟨next, hSet, hLength, hItems, hRest⟩

/-- A setting is given as often as its name is a key. -/
theorem count_given (members : List (Option String × Json.Value)) (s : Setting) :
    (Setting.given members).count s = (members.map Prod.fst).count (some s.name) := by
  induction members with
  | nil => rfl
  | cons member members ih =>
      obtain ⟨_ | key, v⟩ := member
      · simpa [Setting.given] using ih
      rw [List.map_cons, List.count_cons, ← ih]
      cases hName : Setting.ofName? key with
      | none =>
          have hOther : key ≠ s.name := fun hSame => by
            rw [Setting.ofName?_eq_some_iff.mpr hSame] at hName
            cases hName
          simp [given_cons_of_other members hName, hOther]
      | some t =>
          obtain rfl := Setting.ofName?_eq_some_iff.mp hName
          have hSame : t.name = s.name ↔ t = s := by
            rw [← Setting.ofName?_eq_some_iff, Setting.ofName?_eq_some_iff.mpr rfl,
              Option.some.injEq, eq_comm]
          simp [given_cons_of_ofName? members hName, List.count_cons, hSame]

/-- The policy of a text is that of the value it denotes, however the text is spelled. -/
theorem ofJson?_of_denotes {text : String} {v : Json.Value}
    (hDenotes : Json.Denotes text.toList v) : ofJson? text = ofValue? v := by
  rw [ofJson?, Json.parse_of_denotes hDenotes, Option.bind_some]

/-- An object is read as the policy that it describes and that has the standard settings for the
rest. -/
theorem ofValue?_object_eq_some_iff {q : Policy} {members : List (Option String × Json.Value)} :
    ofValue? (.object members) = some q ↔
      q.Gives members ∧ standard.override q (Setting.given members) = q := by
  simp [ofValue?, readMembers_eq_some_iff]

/-- An array gives the settings in their fixed order. It may stop early, but not go on. -/
theorem ofValue?_array_eq_some_iff {q : Policy} {items : List Json.Value} :
    ofValue? (.array items) = some q ↔
      items.length ≤ 7 ∧ (∀ item ∈ Setting.all.zip items, item.1.Holds q item.2) ∧
        standard.override q (Setting.all.take items.length) = q :=
  readItems_eq_some_iff (by decide)

/-- What texts are policies: objects that describe one, and arrays of its first values. No other
text is read. -/
theorem ofJson?_eq_some_iff {text : String} {q : Policy} :
    ofJson? text = some q ↔
      (∃ members, Json.Denotes text.toList (.object members) ∧
        q.Gives members ∧ standard.override q (Setting.given members) = q) ∨
      ∃ items, Json.Denotes text.toList (.array items) ∧
        items.length ≤ 7 ∧ (∀ item ∈ Setting.all.zip items, item.1.Holds q item.2) ∧
          standard.override q (Setting.all.take items.length) = q := by
  rw [ofJson?, Option.bind_eq_some_iff]
  simp only [Json.parse_eq_some_iff]
  constructor
  · rintro ⟨v, hDenotes, hValue⟩
    cases v with
    | object members => exact .inl ⟨members, hDenotes, ofValue?_object_eq_some_iff.mp hValue⟩
    | array items => exact .inr ⟨items, hDenotes, ofValue?_array_eq_some_iff.mp hValue⟩
    | _ => cases hValue
  · rintro (⟨members, hDenotes, hObject⟩ | ⟨items, hDenotes, hArray⟩)
    · exact ⟨_, hDenotes, ofValue?_object_eq_some_iff.mpr hObject⟩
    · exact ⟨_, hDenotes, ofValue?_array_eq_some_iff.mpr hArray⟩

/-- The order of members does not matter. -/
theorem gives_of_perm {q : Policy} {members others : List (Option String × Json.Value)}
    (hPerm : members.Perm others) : q.Gives members ↔ q.Gives others := by
  have hOne {members others : List (Option String × Json.Value)} (hPerm : members.Perm others)
      (hGives : q.Gives members) : q.Gives others :=
    ⟨fun member hMem => hGives.hasText member (hPerm.mem_iff.mpr hMem),
      (hPerm.filterMap _).nodup_iff.mp hGives.once,
      fun member hMem => hGives.holds member (hPerm.mem_iff.mpr hMem)⟩
  exact ⟨hOne hPerm, hOne hPerm.symm⟩

/-- Values in order give as many settings as there are values. -/
theorem given_zip (settings : List Setting) (items : List Json.Value) :
    Setting.given ((settings.zip items).map fun item => (some item.1.name, item.2)) =
      settings.take items.length := by
  induction settings generalizing items with
  | nil => simp [Setting.given]
  | cons s settings ih =>
      cases items with
      | nil => rfl
      | cons v items =>
          rw [List.zip_cons_cons, List.map_cons,
            given_cons_of_ofName? _ (Setting.ofName?_eq_some_iff.mpr rfl), ih, List.length_cons,
            List.take_succ_cons]

/-- Values in order describe a policy like the object with the names of the settings. -/
theorem gives_zip {q : Policy} {settings : List Setting} {items : List Json.Value}
    (hNodup : settings.Nodup) :
    q.Gives ((settings.zip items).map fun item => (some item.1.name, item.2)) ↔
      ∀ item ∈ settings.zip items, item.1.Holds q item.2 := by
  constructor
  · intro hGives item hMem
    exact hGives.holds _ (List.mem_map_of_mem hMem) item.1 rfl
  · intro hHolds
    refine ⟨?_, ?_, ?_⟩
    · intro member hMem
      obtain ⟨item, -, rfl⟩ := List.mem_map.mp hMem
      exact Option.some_ne_none _
    · rw [given_zip]
      exact hNodup.sublist (List.take_sublist _ _)
    · intro member hMem s hName
      obtain ⟨item, hItem, rfl⟩ := List.mem_map.mp hMem
      obtain rfl : item.1 = s := by
        rw [Option.some.injEq, ← Setting.ofName?_eq_some_iff,
          Setting.ofName?_eq_some_iff.mpr rfl] at hName
        exact Option.some.inj hName
      exact hHolds item hItem

/-- Members that give what a policy has are read as that policy, and as the standard one in what
they do not give. -/
theorem ofValue?_of_gives {g : Policy} {members : List (Option String × Json.Value)}
    (hGives : g.Gives members) :
    ofValue? (.object members) = some (standard.override g (Setting.given members)) := by
  refine ofValue?_object_eq_some_iff.mpr ⟨⟨hGives.hasText, hGives.once, ?_⟩, ?_⟩
  · intro member hMem s hName
    have hGiven : s ∈ Setting.given members := by
      obtain ⟨key, v⟩ := member
      obtain rfl : key = some s.name := hName
      exact List.mem_filterMap.mpr ⟨_, hMem, Setting.ofName?_eq_some_iff.mpr rfl⟩
    exact (holds_override_of_mem hGiven).mpr (hGives.holds member hMem s hName)
  · exact override_override_self standard g _

/-- Policies are read from whatever part of them a text gives. An object that gives some settings,
in any order and among members of other names with any values, is read as the standard policy with
these settings in place of its own. A setting named twice anywhere is refused. An array of at most
seven values is read as any object that gives its values to the settings in their order, also if
both are refused; a longer array is refused. -/
theorem partial_policies_are_read :
    (∀ (g : Policy) (text : String) (members : List (Option String × Json.Value)),
      Json.Denotes text.toList (.object members) → g.Gives members →
        ofJson? text = some (standard.override g (Setting.given members))) ∧
      (∀ (text : String) (members : List (Option String × Json.Value)) (s : Setting),
        Json.Denotes text.toList (.object members) →
          1 < (members.map Prod.fst).count (some s.name) → ofJson? text = none) ∧
      (∀ (array object : String) (items : List Json.Value)
        (members : List (Option String × Json.Value)),
        Json.Denotes array.toList (.array items) → items.length ≤ 7 →
          Json.Denotes object.toList (.object members) →
            members.Perm ((Setting.all.zip items).map fun item => (some item.1.name, item.2)) →
              ofJson? array = ofJson? object) ∧
      ∀ (text : String) (items : List Json.Value), Json.Denotes text.toList (.array items) →
        7 < items.length → ofJson? text = none := by
  refine ⟨fun g text members hText hGives => ?_, fun text members s hText hTwice => ?_,
    fun array object items members hArray hLength hObject hPerm => ?_,
    fun text items hText hLonger => ?_⟩
  · rw [ofJson?_of_denotes hText, ofValue?_of_gives hGives]
  · rw [ofJson?_of_denotes hText, Option.eq_none_iff_forall_ne_some]
    intro q hRead
    have hOnce := (ofValue?_object_eq_some_iff.mp hRead).1.once
    have hCount := List.nodup_iff_count_le_one.mp hOnce s
    rw [count_given] at hCount
    omega
  · rw [ofJson?_of_denotes hArray, ofJson?_of_denotes hObject]
    apply Option.ext
    intro q
    have hSettings : ∀ s, s ∈ Setting.given members ↔ s ∈ Setting.all.take items.length := by
      intro s
      rw [← given_zip]
      exact (hPerm.filterMap _).mem_iff
    rw [ofValue?_array_eq_some_iff, ofValue?_object_eq_some_iff, gives_of_perm hPerm,
      gives_zip (by decide), override_congr standard q hSettings]
    exact and_iff_right hLength
  · rw [ofJson?_of_denotes hText, Option.eq_none_iff_forall_ne_some]
    intro q hRead
    exact absurd (ofValue?_array_eq_some_iff.mp hRead).1 (Nat.not_le.mpr hLonger)

/-- An object that skips members and settings, one that repeats a setting with the same value, an
array that stops early, and one that goes on too long. -/
theorem parts_of_compact_are_read :
    ofJson?
        "\x7b\"x\":[1e9,\x7b\"format\":2\x7d], \"format\":\"compact\",\"work_factor\":1024\x7d" =
        some { compact with workFactor := 1024 } ∧
      ofJson? "\x7b\"key_len\":64,\"y\":null,\"key_len\":64\x7d" = none ∧
      ofJson? "[1024,8]" = ofJson? "\x7b\"block_size\":8,\"work_factor\":1024\x7d" ∧
      ofJson? "[1024,8,1,33554432,16,64,\"compact\",0]" = none := by
  have hNumber : Natural (.number ['1', '0', '2', '4']) 1024 := .intro (by simp)
  have hLayout : Layout.Named (.string (some "compact")) .compact :=
    @Layout.Named.name .compact
  have hGives : Gives { compact with workFactor := 1024 }
      [(some "x", .array [.number ['1', 'e', '9'], .object [(some "format", .number ['2'])]]),
        (some Setting.layout.name, .string (some "compact")),
        (some Setting.workFactor.name, .number ['1', '0', '2', '4'])] :=
    (gives_cons_other rfl).mpr (gives_cons_setting.mpr ⟨hLayout, by decide,
      gives_cons_setting.mpr ⟨hNumber, by decide, gives_nil _⟩⟩)
  refine ⟨?_, ?_, ?_, ?_⟩
  · exact partial_policies_are_read.1 _ _ _ (Json.denotes_iff.mpr (by decide +kernel)) hGives
  · exact partial_policies_are_read.2.1 _
      [(some "key_len", .number ['6', '4']), (some "y", .null),
        (some "key_len", .number ['6', '4'])]
      .keyLength (Json.denotes_iff.mpr (by decide +kernel)) (by decide)
  · exact partial_policies_are_read.2.2.1 _ _ [.number ['1', '0', '2', '4'], .number ['8']]
      [(some "block_size", .number ['8']), (some "work_factor", .number ['1', '0', '2', '4'])]
      (Json.denotes_iff.mpr (by decide +kernel)) (by decide)
      (Json.denotes_iff.mpr (by decide +kernel))
      (List.Perm.swap _ _ _)
  · exact partial_policies_are_read.2.2.2 _
      [.number "1024".toList, .number ['8'], .number ['1'], .number "33554432".toList,
        .number "16".toList, .number "64".toList, .string (some "compact"), .number ['0']]
      (Json.denotes_iff.mpr (by decide +kernel)) (by decide)

end Policy

end PasswordHashing
