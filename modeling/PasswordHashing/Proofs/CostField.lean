import Mathlib.Algebra.Group.Nat.Defs
import Mathlib.Data.List.Nodup
import Mathlib.Data.List.Perm.Basic
import PasswordHashing.Record
import PasswordHashing.Proofs.Spelling

/-! The language of the cost field. The grammar knows no order among the three parameters, while
the reader goes from left to right and remembers what it has seen. One step of the reader takes one
item of the grammar; a run takes a list of items without a repeated parameter. -/
namespace PasswordHashing

open Text

/-- The text of a cost: its three parameters, each once and in any order, with commas between. -/
inductive Cost.Spells : List Char → Cost → Prop where
  | intro {items : List (List Char)} {a b c : List Char} {k r p : Nat}
      (hLogN : Decimal.Spells a k) (hLogNBound : k ≤ 255)
      (hBlockSize : Decimal.Spells b r) (hBlockSizeBound : r ≤ 2 ^ 32 - 1)
      (hParallelism : Decimal.Spells c p) (hParallelismBound : p ≤ 2 ^ 32 - 1)
      (hItems : items.Perm [['l', 'n', '='] ++ a, ['r', '='] ++ b, ['p', '='] ++ c]) :
      Cost.Spells ([','].intercalate items) ⟨k.toUInt8, r.toUInt32, p.toUInt32⟩

/-- One item of a cost as the reader sees it: a parameter, the text of its value and the value. -/
structure CostItem where
  parameter : Parameter
  text : List Char
  value : Nat
  spells : Decimal.Spells text value
  le_bound : value ≤ parameter.bound

def CostItem.chars (i : CostItem) : List Char :=
  i.parameter.name ++ '=' :: i.text

/-- A parameter is known by its name as it is written, in small letters and without blanks. -/
theorem Parameter.ofName?_eq_some_iff {name : List Char} {p : Parameter} :
    Parameter.ofName? name = some p ↔ name = p.name := by
  constructor
  · intro hFind
    simpa [eq_comm] using List.find?_some hFind
  · rintro rfl
    cases p <;> rfl

/-- The names hold nothing that separates items, fields or a name from its value. -/
theorem Parameter.free_name (p : Parameter) : '=' ∉ p.name ∧ ',' ∉ p.name ∧ ':' ∉ p.name := by
  cases p <;> decide

/-- An item holds no separator, so that it is found again where items are joined. -/
theorem CostItem.not_mem_chars (i : CostItem) : ',' ∉ i.chars ∧ ':' ∉ i.chars := by
  obtain ⟨_, hComma, hColon⟩ := i.parameter.free_name
  have hText {c : Char} (hMem : c ∈ i.text) : c ≠ ',' ∧ c ≠ ':' := by
    rcases Decimal.mem_of_spells i.spells hMem with rfl | hDigit
    · decide
    · exact (Decimal.isDigit_ne hDigit).2
  simp only [CostItem.chars, List.mem_append, List.mem_cons, not_or]
  exact ⟨⟨hComma, by decide, fun hMem => (hText hMem).1 rfl⟩,
    ⟨hColon, by decide, fun hMem => (hText hMem).2 rfl⟩⟩

theorem CostItem.colon_not_mem_join (items : List CostItem) :
    ':' ∉ [','].intercalate (items.map CostItem.chars) := by
  intro hColon
  rcases mem_of_mem_intercalate hColon with hComma | ⟨text, hText, hMem⟩
  · cases hComma
  · obtain ⟨i, -, rfl⟩ := List.mem_map.mp hText
    exact i.not_mem_chars.2 hMem

namespace Parameters

def insertAll (seen : Parameters) (items : List CostItem) : Parameters :=
  items.foldl (fun seen i => seen.insert i.parameter i.value) seen

theorem insertAll_cons (seen : Parameters) (i : CostItem) (items : List CostItem) :
    seen.insertAll (i :: items) = (seen.insert i.parameter i.value).insertAll items := rfl

@[simp] theorem insert_same (seen : Parameters) (p : Parameter) (n : Nat) :
    seen.insert p n p = some n := by
  simp [insert]

theorem insert_of_ne (seen : Parameters) {p q : Parameter} (n : Nat) (hNe : q ≠ p) :
    seen.insert p n q = seen q := by
  simp [insert, hNe]

/-- A parameter is still missing after an item exactly if the item is not one of it and it was
missing before. -/
theorem insert_eq_none_iff {seen : Parameters} {p q : Parameter} {n : Nat} :
    seen.insert p n q = .none ↔ q ≠ p ∧ seen q = .none := by
  by_cases hEq : q = p <;> simp [insert, hEq]

theorem insertAll_of_not_mem {seen : Parameters} {items : List CostItem} {p : Parameter}
    (hNot : p ∉ items.map CostItem.parameter) : seen.insertAll items p = seen p := by
  induction items generalizing seen with
  | nil => rfl
  | cons i items ih =>
      simp only [List.map_cons, List.mem_cons, not_or] at hNot
      rw [insertAll_cons, ih hNot.2, insert_of_ne seen i.value hNot.1]

/-- With no parameter given twice, the order of the items does not matter. -/
theorem insertAll_of_mem {seen : Parameters} {items : List CostItem}
    (hNodup : (items.map CostItem.parameter).Nodup) {i : CostItem} (hMem : i ∈ items) :
    seen.insertAll items i.parameter = some i.value := by
  induction items generalizing seen with
  | nil => cases hMem
  | cons j items ih =>
      rw [List.map_cons, List.nodup_cons] at hNodup
      rw [insertAll_cons]
      rcases List.mem_cons.mp hMem with rfl | hMem
      · rw [insertAll_of_not_mem hNodup.1, insert_same]
      · exact ih hNodup.2 hMem

/-- Whatever is known after the items comes from one of them. -/
theorem exists_of_insertAll {items : List CostItem} {p : Parameter} {n : Nat}
    (hNodup : (items.map CostItem.parameter).Nodup)
    (hKnown : Parameters.none.insertAll items p = some n) :
    ∃ i ∈ items, i.parameter = p ∧ i.value = n := by
  by_cases hMem : p ∈ items.map CostItem.parameter
  · obtain ⟨i, hItem, rfl⟩ := List.mem_map.mp hMem
    rw [insertAll_of_mem hNodup hItem] at hKnown
    exact ⟨i, hItem, rfl, Option.some.inj hKnown⟩
  · rw [insertAll_of_not_mem hMem] at hKnown
    cases hKnown

/-- One step of the reader: the item is one of the grammar and its parameter is new. -/
theorem readItem_eq_ok_iff {seen next : Parameters} {cs : List Char} :
    seen.readItem cs = .ok next ↔
      ∃ i : CostItem, cs = i.chars ∧ seen i.parameter = .none ∧
        next = seen.insert i.parameter i.value := by
  constructor
  · intro hRead
    unfold readItem at hRead
    split at hRead
    · cases hRead
    rename_i name value hCut
    split at hRead
    · cases hRead
    rename_i p hName
    split at hRead
    · cases hRead
    rename_i n hValue
    split at hRead
    · cases hRead
    rename_i hNew
    cases hRead
    obtain ⟨hSpells, hBound⟩ := Decimal.read_eq_ok_iff.mp hValue
    obtain rfl := Parameter.ofName?_eq_some_iff.mp hName
    refine ⟨⟨p, value, n, hSpells, hBound⟩, (cut?_eq_some_iff.mp hCut).2, ?_, rfl⟩
    simpa using hNew
  · rintro ⟨⟨p, text, n, hSpells, hBound⟩, rfl, hNew, rfl⟩
    have hCut : cut? '=' (p.name ++ '=' :: text) = some (p.name, text) :=
      cut?_eq_some_iff.mpr ⟨p.free_name.1, rfl⟩
    have hValue : Decimal.read p.bound text = .ok n :=
      Decimal.read_eq_ok_iff.mpr ⟨hSpells, hBound⟩
    dsimp only at hNew
    simp [readItem, CostItem.chars, hCut, Parameter.ofName?_eq_some_iff.mpr rfl, hValue, hNew]

/-- A run of the reader: every text is an item, and no parameter comes twice or was known before.
The parameters seen so far vary in the induction, since to later items the first one is among
them. -/
theorem readItems_eq_ok_iff {seen final : Parameters} {texts : List (List Char)} :
    seen.readItems texts = .ok final ↔
      ∃ items : List CostItem, texts = items.map CostItem.chars ∧
        (items.map CostItem.parameter).Nodup ∧ (∀ i ∈ items, seen i.parameter = .none) ∧
          final = seen.insertAll items := by
  induction texts generalizing seen with
  | nil =>
      constructor
      · rintro ⟨⟩
        exact ⟨[], rfl, List.nodup_nil, by simp, rfl⟩
      · rintro ⟨items, hTexts, -, -, rfl⟩
        obtain rfl := List.map_eq_nil_iff.mp hTexts.symm
        rfl
  | cons cs texts ih =>
      constructor
      · intro hRead
        rw [readItems] at hRead
        split at hRead
        · cases hRead
        · rename_i next hStep
          obtain ⟨i, rfl, hNew, rfl⟩ := readItem_eq_ok_iff.mp hStep
          obtain ⟨items, rfl, hNodup, hFresh, rfl⟩ := ih.mp hRead
          have hApart (j : CostItem) (hMem : j ∈ items) :
              j.parameter ≠ i.parameter ∧ seen j.parameter = .none :=
            insert_eq_none_iff.mp (hFresh j hMem)
          refine ⟨i :: items, rfl, ?_, ?_, rfl⟩
          · simpa [hNodup] using fun j hMem => (hApart j hMem).1
          · intro j hMem
            rcases List.mem_cons.mp hMem with rfl | hMem
            · exact hNew
            · exact (hApart j hMem).2
      · rintro ⟨_ | ⟨i, items⟩, hTexts, hNodup, hFresh, rfl⟩
        · cases hTexts
        · obtain ⟨rfl, rfl⟩ := List.cons.inj hTexts
          rw [List.map_cons, List.nodup_cons] at hNodup
          rw [readItems, readItem_eq_ok_iff.mpr ⟨i, rfl, hFresh i List.mem_cons_self, rfl⟩]
          refine ih.mpr ⟨items, rfl, hNodup.2, fun j hMem => insert_eq_none_iff.mpr ⟨?_, ?_⟩, rfl⟩
          · intro hSame
            exact hNodup.1 (hSame ▸ List.mem_map_of_mem hMem)
          · exact hFresh j (List.mem_cons_of_mem i hMem)

/-- Items of all three parameters leave no room for a fourth. -/
theorem perm_of_all_parameters {items : List CostItem} {i j l : CostItem}
    (hNodup : (items.map CostItem.parameter).Nodup)
    (hI : i ∈ items) (hJ : j ∈ items) (hL : l ∈ items) (hLogN : i.parameter = .logN)
    (hBlockSize : j.parameter = .blockSize) (hParallelism : l.parameter = .parallelism) :
    items.Perm [i, j, l] := by
  have hThree : [i, j, l].Nodup := by
    apply List.Nodup.of_map CostItem.parameter
    simp [hLogN, hBlockSize, hParallelism]
  apply (List.perm_ext_iff_of_nodup (List.Nodup.of_map _ hNodup) hThree).mpr
  intro x
  constructor
  · intro hX
    have hSame {y : CostItem} (hY : y ∈ items) (hEq : x.parameter = y.parameter) : x = y :=
      List.inj_on_of_nodup_map hNodup hX hY hEq
    cases hParameter : x.parameter with
    | logN => simp [hSame hI (hParameter.trans hLogN.symm)]
    | blockSize => simp [hSame hJ (hParameter.trans hBlockSize.symm)]
    | parallelism => simp [hSame hL (hParameter.trans hParallelism.symm)]
  · intro hX
    simp only [List.mem_cons, List.not_mem_nil, or_false] at hX
    rcases hX with rfl | rfl | rfl <;> assumption

/-- Items that name no parameter twice give a cost exactly if they are three, one for each parameter
in some order. -/
theorem cost_insertAll_eq_ok_iff {items : List CostItem} {cost : Cost}
    (hNodup : (items.map CostItem.parameter).Nodup) :
    (Parameters.none.insertAll items).cost = .ok cost ↔
      ∃ i j l : CostItem, items.Perm [i, j, l] ∧ i.parameter = .logN ∧
        j.parameter = .blockSize ∧ l.parameter = .parallelism ∧
          cost = ⟨i.value.toUInt8, j.value.toUInt32, l.value.toUInt32⟩ := by
  constructor
  · intro hCost
    rw [Parameters.cost] at hCost
    split at hCost
    · rename_i hK hR hP
      obtain ⟨i, hI, hLogN, rfl⟩ := exists_of_insertAll hNodup hK
      obtain ⟨j, hJ, hBlockSize, rfl⟩ := exists_of_insertAll hNodup hR
      obtain ⟨l, hL, hParallelism, rfl⟩ := exists_of_insertAll hNodup hP
      cases hCost
      have hPerm := perm_of_all_parameters hNodup hI hJ hL hLogN hBlockSize hParallelism
      exact ⟨i, j, l, hPerm, hLogN, hBlockSize, hParallelism, rfl⟩
    · cases hCost
  · rintro ⟨i, j, l, hPerm, hLogN, hBlockSize, hParallelism, rfl⟩
    have hValue (x : CostItem) (hX : x ∈ [i, j, l]) :
        Parameters.none.insertAll items x.parameter = some x.value :=
      insertAll_of_mem hNodup (hPerm.mem_iff.mpr hX)
    have hI := hValue i (by simp)
    have hJ := hValue j (by simp)
    have hL := hValue l (by simp)
    rw [hLogN] at hI
    rw [hBlockSize] at hJ
    rw [hParallelism] at hL
    simp only [Parameters.cost, hI, hJ, hL]

end Parameters

/-- The items of a cost, in the order of the text and by their parameters. -/
theorem Cost.exists_items_of_read {q : List Char} {cost : Cost} (hRead : Cost.read q = .ok cost) :
    ∃ (items : List CostItem) (i j l : CostItem), split ',' q = items.map CostItem.chars ∧
      items.Perm [i, j, l] ∧ i.parameter = .logN ∧ j.parameter = .blockSize ∧
        l.parameter = .parallelism ∧ cost.logN.toNat = i.value ∧
          cost.blockSize.toNat = j.value ∧ cost.parallelism.toNat = l.value := by
  rw [Cost.read] at hRead
  split at hRead
  · cases hRead
  · rename_i seen hItems
    obtain ⟨items, hTexts, hNodup, -, rfl⟩ := Parameters.readItems_eq_ok_iff.mp hItems
    obtain ⟨i, j, l, hPerm, hLogN, hBlockSize, hParallelism, rfl⟩ :=
      (Parameters.cost_insertAll_eq_ok_iff hNodup).mp hRead
    have hI := i.le_bound
    have hJ := j.le_bound
    have hL := l.le_bound
    rw [hLogN] at hI
    rw [hBlockSize] at hJ
    rw [hParallelism] at hL
    refine ⟨items, i, j, l, hTexts, hPerm, hLogN, hBlockSize, hParallelism, ?_, ?_, ?_⟩
    · exact UInt8.toNat_ofNat_of_lt' (Nat.lt_succ_of_le hI)
    · exact UInt32.toNat_ofNat_of_lt' (Nat.lt_succ_of_le hJ)
    · exact UInt32.toNat_ofNat_of_lt' (Nat.lt_succ_of_le hL)

theorem Cost.spells_of_read {q : List Char} {cost : Cost} (hRead : Cost.read q = .ok cost) :
    Cost.Spells q cost := by
  obtain ⟨items, i, j, l, hTexts, hPerm, hLogN, hBlockSize, hParallelism, hK, hR, hP⟩ :=
    exists_items_of_read hRead
  have hKBound := cost.logN.toNat_lt
  have hRBound := cost.blockSize.toNat_lt
  have hPBound := cost.parallelism.toNat_lt
  have hChars := hPerm.map CostItem.chars
  rw [← hTexts] at hChars
  have hIntro := Cost.Spells.intro i.spells (by omega) j.spells (by omega) l.spells (by omega)
    (by simpa [CostItem.chars, hLogN, hBlockSize, hParallelism, Parameter.name] using hChars)
  simpa [intercalate_split, ← hK, ← hR, ← hP] using hIntro

theorem Cost.read_of_spells {q : List Char} {cost : Cost} (hSpells : Cost.Spells q cost) :
    Cost.read q = .ok cost := by
  cases hSpells with
  | @intro texts a b c k r p hLogN hK hBlockSize hR hParallelism hP hTexts =>
      let i : CostItem := ⟨.logN, a, k, hLogN, hK⟩
      let j : CostItem := ⟨.blockSize, b, r, hBlockSize, hR⟩
      let l : CostItem := ⟨.parallelism, c, p, hParallelism, hP⟩
      have hChars : texts.Perm ([i, j, l].map CostItem.chars) := hTexts
      obtain ⟨items, rfl, hPerm⟩ : ∃ items : List CostItem,
          texts = items.map CostItem.chars ∧ items.Perm [i, j, l] :=
        (congrFun₂ (List.eq_map_comp_perm CostItem.chars) texts [i, j, l]).mpr hChars
      have hNodup : (items.map CostItem.parameter).Nodup := by
        rw [(hPerm.map CostItem.parameter).nodup_iff]
        simp [i, j, l]
      have hSplit : split ',' ([','].intercalate (items.map CostItem.chars)) =
          items.map CostItem.chars := by
        refine split_eq_iff.mpr ⟨?_, ?_, rfl⟩
        · rintro hNil
          rw [List.map_eq_nil_iff.mp hNil] at hPerm
          exact absurd hPerm.length_eq (by simp)
        · intro text hMem
          obtain ⟨x, -, rfl⟩ := List.mem_map.mp hMem
          exact x.not_mem_chars.1
      have hItems : Parameters.none.readItems (items.map CostItem.chars) =
          .ok (Parameters.none.insertAll items) :=
        Parameters.readItems_eq_ok_iff.mpr ⟨items, rfl, hNodup, fun _ _ => rfl, rfl⟩
      rw [Cost.read, hSplit, hItems]
      exact (Parameters.cost_insertAll_eq_ok_iff hNodup).mpr ⟨i, j, l, hPerm, rfl, rfl, rfl, rfl⟩

/-- The reader of costs accepts exactly their spellings. -/
theorem Cost.read_eq_ok_iff {q : List Char} {cost : Cost} :
    Cost.read q = .ok cost ↔ Cost.Spells q cost :=
  ⟨Cost.spells_of_read, Cost.read_of_spells⟩

example : Cost.read "p=+01,ln=014,r=8".toList = .ok .standard := by rfl

theorem Cost.colon_not_mem_of_spells {q : List Char} {cost : Cost}
    (hSpells : Cost.Spells q cost) : ':' ∉ q := by
  obtain ⟨items, _, _, _, hTexts, -⟩ := exists_items_of_read (Cost.read_of_spells hSpells)
  rw [← intercalate_split ',' q, hTexts]
  exact CostItem.colon_not_mem_join items

theorem Cost.spells_chars (cost : Cost) : Cost.Spells cost.chars cost := by
  have hK := cost.logN.toNat_lt
  have hR := cost.blockSize.toNat_lt
  have hP := cost.parallelism.toNat_lt
  have hIntro := Cost.Spells.intro (Decimal.spells_render cost.logN.toNat) (by omega)
    (Decimal.spells_render cost.blockSize.toNat) (by omega)
    (Decimal.spells_render cost.parallelism.toNat) (by omega) (List.Perm.refl _)
  simpa [Cost.chars, List.intercalate] using hIntro

end PasswordHashing
