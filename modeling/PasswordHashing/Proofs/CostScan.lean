import PasswordHashing.Proofs.CostField

/-! The cost field as it is scanned. A run of the reader over some items goes on from what a run
over the first of them has seen, or ends with its fault, so that the fault reported is the leftmost
one. What has been read without a fault can always be completed, unless nothing is missing. -/
namespace PasswordHashing

open Text

namespace Text

/-- A delimiter between two texts separates their fields too. -/
theorem split_append_delimiter (delimiter : Char) (cs ds : List Char) :
    split delimiter (cs ++ delimiter :: ds) = split delimiter cs ++ split delimiter ds := by
  induction cs with
  | nil => simp
  | cons c cs ih =>
      rw [List.cons_append]
      by_cases hEq : c = delimiter
      · subst hEq
        rw [split_cons_delimiter, split_cons_delimiter, ih, List.cons_append]
      · obtain ⟨field, fields, hSplit⟩ := exists_split_eq_cons delimiter cs
        rw [hSplit, List.cons_append] at ih
        rw [split_cons_of_ne hEq ih, split_cons_of_ne hEq hSplit, List.cons_append]

theorem split_ne_nil (delimiter : Char) (cs : List Char) : split delimiter cs ≠ [] := by
  obtain ⟨field, fields, hSplit⟩ := exists_split_eq_cons delimiter cs
  simp [hSplit]

end Text

def Cost.value (c : Cost) : Parameter → Nat
  | .logN => c.logN.toNat
  | .blockSize => c.blockSize.toNat
  | .parallelism => c.parallelism.toNat

def CostItem.zero (p : Parameter) : CostItem where
  parameter := p
  text := Decimal.render 0
  value := 0
  spells := Decimal.spells_render 0
  le_bound := Nat.zero_le _

/-- Zeros for the parameters that some items leave out. -/
def CostItem.zeros (items : List CostItem) : List CostItem :=
  ([Parameter.logN, .blockSize, .parallelism].filter fun p =>
    p ∉ items.map CostItem.parameter).map CostItem.zero

namespace CostItem

/-- The zeros fill in for the missing parameters in a fixed order. -/
theorem map_parameter_zeros (items : List CostItem) :
    (zeros items).map parameter =
      [Parameter.logN, .blockSize, .parallelism].filter fun p => p ∉ items.map parameter := by
  rw [zeros, List.map_map]
  exact List.map_id _

theorem nodup_zeros (items : List CostItem) : ((zeros items).map parameter).Nodup := by
  rw [map_parameter_zeros]
  exact List.Nodup.filter _ (by decide)

theorem mem_map_parameter_zeros {items : List CostItem} {p : Parameter} :
    p ∈ (zeros items).map parameter ↔ p ∉ items.map parameter := by
  have hAll : p ∈ [Parameter.logN, .blockSize, .parallelism] := by
    cases p <;> decide
  rw [map_parameter_zeros]
  simp only [List.mem_filter, hAll, true_and, decide_eq_true_eq]

end CostItem

namespace Parameters

/-- A run goes on from what a run over the first items has seen, or ends with its fault. -/
theorem readItems_append (seen : Parameters) (texts more : List (List Char)) :
    seen.readItems (texts ++ more) =
      match seen.readItems texts with
      | .error fault => .error fault
      | .ok next => next.readItems more := by
  induction texts generalizing seen with
  | nil => rfl
  | cons cs texts ih =>
      rw [List.cons_append, readItems, readItems]
      cases seen.readItem cs with
      | error fault => rfl
      | ok next => exact ih next

/-- The words for a missing parameter open as no other words of the reader do. -/
theorem ne_message_of_opening {opening : String} (rest : String)
    (hLength : 10 ≤ opening.toList.length)
    (hOther : opening.toList.take 10 ≠ "parameters".toList) :
    opening ++ rest ≠ RecordFault.missingParameter.message := by
  intro hEq
  have hTake := congrArg (fun text => text.toList.take 10) hEq
  simp only [String.toList_append, List.take_append_of_le_length hLength] at hTake
  exact hOther hTake

/-- No fault of a single item is told in the words of a missing parameter. -/
theorem message_ne_of_readItem {seen : Parameters} {cs : List Char} {fault : RecordFault}
    (hRead : seen.readItem cs = .error fault) :
    fault.message ≠ RecordFault.missingParameter.message := by
  rw [readItem] at hRead
  split at hRead
  · cases hRead
    change "bad parameter " ++ _ ≠ _
    exact ne_message_of_opening _ (by decide) (by decide)
  split at hRead
  · cases hRead
    change "unknown parameter " ++ _ ≠ _
    exact ne_message_of_opening _ (by decide) (by decide)
  split at hRead
  · cases hRead
    change "parameter " ++ _ ++ " has bad value " ++ _ ≠ _
    rw [String.append_assoc, String.append_assoc]
    exact ne_message_of_opening _ (by decide) (by decide)
  split at hRead
  · cases hRead
    change "duplicate parameter " ++ _ ≠ _
    exact ne_message_of_opening _ (by decide) (by decide)
  · cases hRead

/-- Nor is a fault of several items: they are read before it is asked what is missing. -/
theorem message_ne_of_readItems {seen : Parameters} {texts : List (List Char)}
    {fault : RecordFault} (hRead : seen.readItems texts = .error fault) :
    fault.message ≠ RecordFault.missingParameter.message := by
  induction texts generalizing seen with
  | nil => cases hRead
  | cons cs texts ih =>
      rw [readItems] at hRead
      cases hItem : seen.readItem cs with
      | error first =>
          rw [hItem] at hRead
          cases hRead
          exact message_ne_of_readItem hItem
      | ok after =>
          rw [hItem] at hRead
          exact ih hRead

theorem known_of_cost_ok {seen : Parameters} {cost : Cost} (hCost : seen.cost = .ok cost)
    (p : Parameter) : seen p ≠ .none := by
  rw [Parameters.cost] at hCost
  split at hCost
  · rename_i hLogN hBlockSize hParallelism
    cases p <;> simp [*]
  · cases hCost

/-- The parameters at hand can only fail to be a cost because one is missing. -/
theorem missing_of_cost_error {seen : Parameters} {fault : RecordFault}
    (hCost : seen.cost = .error fault) : fault = .missingParameter ∧ ∃ p, seen p = .none := by
  rw [Parameters.cost] at hCost
  split at hCost
  · cases hCost
  rename_i hSome
  cases hCost
  refine ⟨rfl, ?_⟩
  by_contra hAll
  simp only [not_exists, Option.ne_none_iff_exists'] at hAll
  obtain ⟨k, hLogN⟩ := hAll .logN
  obtain ⟨r, hBlockSize⟩ := hAll .blockSize
  obtain ⟨l, hParallelism⟩ := hAll .parallelism
  exact hSome k r l hLogN hBlockSize hParallelism

/-- With all parameters known and within their bounds, nothing is lost in the cost. -/
theorem exists_cost {seen : Parameters} (hKnown : ∀ p, ∃ n ≤ p.bound, seen p = some n) :
    ∃ cost, seen.cost = .ok cost ∧ ∀ p, seen p = some (cost.value p) := by
  obtain ⟨k, hK, hLogN⟩ := hKnown .logN
  obtain ⟨r, hR, hBlockSize⟩ := hKnown .blockSize
  obtain ⟨l, hL, hParallelism⟩ := hKnown .parallelism
  refine ⟨⟨k.toUInt8, r.toUInt32, l.toUInt32⟩, by simp only [cost, hLogN, hBlockSize, hParallelism],
    fun p => ?_⟩
  have hByte : k % 2 ^ 8 = k := Nat.mod_eq_of_lt (Nat.lt_succ_of_le hK)
  have hR : r % 2 ^ 32 = r := Nat.mod_eq_of_lt (Nat.lt_succ_of_le hR)
  have hL : l % 2 ^ 32 = l := Nat.mod_eq_of_lt (Nat.lt_succ_of_le hL)
  cases p with
  | logN => rw [hLogN, Cost.value, Nat.toUInt8, UInt8.toNat_ofNat', hByte]
  | blockSize => rw [hBlockSize, Cost.value, Nat.toUInt32, UInt32.toNat_ofNat', hR]
  | parallelism => rw [hParallelism, Cost.value, Nat.toUInt32, UInt32.toNat_ofNat', hL]

/-- Nothing can be read after all parameters. -/
theorem exists_fault_of_known {seen : Parameters} (hKnown : ∀ p, seen p ≠ .none)
    {texts : List (List Char)} (hNonempty : texts ≠ []) :
    ∃ fault, seen.readItems texts = .error fault := by
  obtain ⟨cs, texts, rfl⟩ := List.exists_cons_of_ne_nil hNonempty
  cases hItem : seen.readItem cs with
  | error fault => exact ⟨fault, by rw [readItems, hItem]⟩
  | ok next =>
      obtain ⟨i, -, hNew, -⟩ := readItem_eq_ok_iff.mp hItem
      exact absurd hNew (hKnown i.parameter)

/-- Zeros for what is left out complete a run that has met no fault. -/
theorem exists_cost_of_zeros {items : List CostItem}
    (hNodup : (items.map CostItem.parameter).Nodup) :
    ∃ final cost, (Parameters.none.insertAll items).readItems
          ((CostItem.zeros items).map CostItem.chars) = .ok final ∧
      final.cost = .ok cost ∧ ∀ i ∈ items, cost.value i.parameter = i.value := by
  have hFresh (i : CostItem) (hMem : i ∈ CostItem.zeros items) :
      Parameters.none.insertAll items i.parameter = .none :=
    insertAll_of_not_mem (CostItem.mem_map_parameter_zeros.mp (List.mem_map_of_mem hMem))
  have hGiven (i : CostItem) (hMem : i ∈ items) :
      ((Parameters.none.insertAll items).insertAll (CostItem.zeros items)) i.parameter =
        some i.value := by
    have hNot : i.parameter ∉ (CostItem.zeros items).map CostItem.parameter := fun hZero =>
      CostItem.mem_map_parameter_zeros.mp hZero (List.mem_map_of_mem hMem)
    rw [insertAll_of_not_mem hNot, insertAll_of_mem hNodup hMem]
  have hKnown (p : Parameter) : ∃ n ≤ p.bound,
      ((Parameters.none.insertAll items).insertAll (CostItem.zeros items)) p = some n := by
    by_cases hMem : p ∈ items.map CostItem.parameter
    · obtain ⟨i, hItem, rfl⟩ := List.mem_map.mp hMem
      exact ⟨i.value, i.le_bound, hGiven i hItem⟩
    · obtain ⟨i, hZero, rfl⟩ := List.mem_map.mp (CostItem.mem_map_parameter_zeros.mpr hMem)
      exact ⟨i.value, i.le_bound, insertAll_of_mem (CostItem.nodup_zeros items) hZero⟩
  obtain ⟨cost, hCost, hValues⟩ := exists_cost hKnown
  refine ⟨_, cost, readItems_eq_ok_iff.mpr ⟨_, rfl, CostItem.nodup_zeros items, hFresh, rfl⟩,
    hCost, fun i hMem => ?_⟩
  exact Option.some.inj ((hValues i.parameter).symm.trans (hGiven i hMem))

end Parameters

namespace Cost

/-- A fault of an item stays the first one, whatever items come after. -/
theorem read_append_of_error {q : List Char} {fault : RecordFault} (hRead : read q = .error fault)
    (hOther : fault.message ≠ RecordFault.missingParameter.message) (t : List Char) :
    read (q ++ ',' :: t) = .error fault := by
  rw [read] at hRead
  rw [read, split_append_delimiter]
  cases hItems : Parameters.none.readItems (split ',' q) with
  | error first =>
      rw [hItems] at hRead
      cases hRead
      rw [Parameters.readItems_append, hItems]
  | ok seen =>
      rw [hItems] at hRead
      obtain ⟨rfl, -⟩ := Parameters.missing_of_cost_error hRead
      exact absurd rfl hOther

/-- A text that only lacks parameters consists of items that are in order, each of another
parameter. -/
theorem exists_items_of_missing {q : List Char} {fault : RecordFault}
    (hRead : read q = .error fault)
    (hMissing : fault.message = RecordFault.missingParameter.message) :
    ∃ items : List CostItem, split ',' q = items.map CostItem.chars ∧
      (items.map CostItem.parameter).Nodup ∧ (∃ p, p ∉ items.map CostItem.parameter) ∧
        Parameters.none.readItems (split ',' q) = .ok (Parameters.none.insertAll items) := by
  rw [read] at hRead
  cases hItems : Parameters.none.readItems (split ',' q) with
  | error first =>
      rw [hItems] at hRead
      cases hRead
      exact absurd hMissing (Parameters.message_ne_of_readItems hItems)
  | ok seen =>
      rw [hItems] at hRead
      obtain ⟨-, p, hNone⟩ := Parameters.missing_of_cost_error hRead
      obtain ⟨items, hTexts, hNodup, -, rfl⟩ := Parameters.readItems_eq_ok_iff.mp hItems
      refine ⟨items, hTexts, hNodup, ⟨p, fun hMem => ?_⟩, rfl⟩
      obtain ⟨i, hItem, rfl⟩ := List.mem_map.mp hMem
      rw [Parameters.insertAll_of_mem hNodup hItem] at hNone
      cases hNone

/-- A text that gives a cost has no room for another item: be it well formed, it repeats a
parameter. -/
theorem exists_fault_of_read_ok {q : List Char} {cost : Cost} (hRead : read q = .ok cost)
    (t : List Char) : ∃ fault, read (q ++ ',' :: t) = .error fault := by
  rw [read] at hRead
  cases hItems : Parameters.none.readItems (split ',' q) with
  | error first =>
      rw [hItems] at hRead
      cases hRead
  | ok seen =>
      rw [hItems] at hRead
      obtain ⟨fault, hFault⟩ := Parameters.exists_fault_of_known
        (Parameters.known_of_cost_ok hRead) (split_ne_nil ',' t)
      refine ⟨fault, ?_⟩
      simp only [read, split_append_delimiter, Parameters.readItems_append, hItems, hFault]

/-- The cost field is scanned from the left, and every text without a fault is the beginning of a
cost. A fault other than a missing parameter stays the fault whatever follows the next comma. If
only parameters are missing, the text is a list of items that give different parameters, and some
continuation makes it a cost with the values it has given so far. A text that is a cost already
cannot be continued. -/
theorem cost_is_scanned_from_the_left (q : List Char) :
    (∀ fault, read q = .error fault →
      fault.message ≠ "parameters must include ln, r and p" →
        ∀ t, read (q ++ ',' :: t) = .error fault) ∧
      (∀ fault, read q = .error fault →
        fault.message = "parameters must include ln, r and p" →
          ∃ items : List CostItem, items ≠ [] ∧
            q = [','].intercalate (items.map CostItem.chars) ∧
            (items.map CostItem.parameter).Nodup ∧
            ∃ t cost, ':' ∉ t ∧ read (q ++ ',' :: t) = .ok cost ∧
              ∀ i ∈ items, cost.value i.parameter = i.value) ∧
      ∀ cost, read q = .ok cost → ∀ t, ∃ fault, read (q ++ ',' :: t) = .error fault := by
  refine ⟨fun fault hRead hOther => read_append_of_error hRead hOther, ?_,
    fun cost hRead => exists_fault_of_read_ok hRead⟩
  intro fault hRead hMissing
  obtain ⟨items, hTexts, hNodup, ⟨p, hLeftOut⟩, hItems⟩ := exists_items_of_missing hRead hMissing
  obtain ⟨final, cost, hFinal, hCost, hValues⟩ := Parameters.exists_cost_of_zeros hNodup
  have hSome : (CostItem.zeros items).map CostItem.chars ≠ [] := by
    intro hNil
    have hZero := CostItem.mem_map_parameter_zeros.mpr hLeftOut
    rw [List.map_eq_nil_iff.mp hNil] at hZero
    cases hZero
  have hSplit : split ',' ([','].intercalate ((CostItem.zeros items).map CostItem.chars)) =
      (CostItem.zeros items).map CostItem.chars := by
    refine split_eq_iff.mpr ⟨hSome, fun text hText => ?_, rfl⟩
    obtain ⟨i, -, rfl⟩ := List.mem_map.mp hText
    exact i.not_mem_chars.1
  refine ⟨items, ?_, ?_, hNodup, _, cost, CostItem.colon_not_mem_join (CostItem.zeros items), ?_,
    hValues⟩
  · rintro rfl
    exact split_ne_nil ',' q hTexts
  · rw [← hTexts, intercalate_split]
  · simp only [read, split_append_delimiter, hSplit, Parameters.readItems_append, hItems, hFinal,
      hCost]

/-- One text for each part: a repeated parameter that no further item can mend, a missing one that
can still be given, and a cost to which nothing may be added. -/
theorem repeated_parameter_is_never_absorbed :
    read "ln=14,ln=15".toList = .error (.duplicateParameter "ln") ∧
      (RecordFault.duplicateParameter "ln").message ≠ "parameters must include ln, r and p" ∧
      read ("ln=14,ln=15".toList ++ ',' :: "r=8,p=1".toList) = .error (.duplicateParameter "ln") ∧
      read "r=+08".toList = .error .missingParameter ∧
      RecordFault.missingParameter.message = "parameters must include ln, r and p" ∧
      (∃ items : List CostItem, items ≠ [] ∧
        "r=+08".toList = [','].intercalate (items.map CostItem.chars) ∧
        (items.map CostItem.parameter).Nodup ∧
        ∃ t cost, ':' ∉ t ∧ read ("r=+08".toList ++ ',' :: t) = .ok cost ∧
          ∀ i ∈ items, cost.value i.parameter = i.value) ∧
      read "p=1,ln=14,r=8".toList = .ok .standard ∧
      ∃ fault, read ("p=1,ln=14,r=8".toList ++ ',' :: "".toList) = .error fault :=
  ⟨rfl, by decide,
    (cost_is_scanned_from_the_left "ln=14,ln=15".toList).1 _ rfl (by decide) _,
    rfl, rfl,
    (cost_is_scanned_from_the_left "r=+08".toList).2.1 _ rfl rfl,
    rfl,
    (cost_is_scanned_from_the_left "p=1,ln=14,r=8".toList).2.2 _ rfl _⟩

end Cost

end PasswordHashing
