import PasswordHashing.Proofs.CurrentRecords

/-! Records that have lost their end. A shorter key is still a key, and what is left of one layout
may have the number of fields of the other, so that a cut record can be read. It is never taken for
a current one: a layout fixes how many delimiters a text has, and the settings of a hasher fix how
much stands after the last of them. -/
namespace PasswordHashing

namespace Text

/-- The text before and after a delimiter is known if none comes after it. From the end of the text
it is the first delimiter, which is where a cut is made. -/
theorem eq_of_append_eq {delimiter : Char} {front front' last last' : List Char}
    (hFree : delimiter ∉ last) (hFree' : delimiter ∉ last')
    (hSame : front ++ delimiter :: last = front' ++ delimiter :: last') :
    front = front' ∧ last = last' := by
  have hCut : cut? delimiter (front ++ delimiter :: last).reverse =
      some (last.reverse, front.reverse) :=
    cut?_eq_some_iff.mpr ⟨by simpa using hFree, by simp⟩
  have hCut' : cut? delimiter (front' ++ delimiter :: last').reverse =
      some (last'.reverse, front'.reverse) :=
    cut?_eq_some_iff.mpr ⟨by simpa using hFree', by simp⟩
  rw [hSame, hCut', Option.some.injEq, Prod.mk.injEq] at hCut
  exact ⟨(List.reverse_injective hCut.2).symm, (List.reverse_injective hCut.1).symm⟩

/-- Of two texts with as many delimiters and last fields of one length, neither goes on after the
end of the other. -/
theorem eq_of_prefix {delimiter : Char} {front front' last last' : List Char}
    (hFree : delimiter ∉ last) (hFree' : delimiter ∉ last')
    (hCount : front.count delimiter = front'.count delimiter)
    (hLength : last.length = last'.length)
    (hPrefix : (front ++ delimiter :: last) <+: (front' ++ delimiter :: last')) :
    front ++ delimiter :: last = front' ++ delimiter :: last' := by
  obtain ⟨rest, hRest⟩ := hPrefix
  have hRestFree : delimiter ∉ rest := by
    have hTotal := congrArg (List.count delimiter) hRest
    simp only [List.count_append, List.count_cons_self, List.count_eq_zero.mpr hFree,
      List.count_eq_zero.mpr hFree'] at hTotal
    exact List.count_eq_zero.mp (by omega)
  have hJoined : front ++ delimiter :: (last ++ rest) = front' ++ delimiter :: last' := by
    rw [← hRest, List.append_assoc, List.cons_append]
  obtain ⟨-, hLast⟩ := eq_of_append_eq (by simp [hFree, hRestFree]) hFree' hJoined
  have hNone : rest = [] := by
    rw [← hLast, List.length_append] at hLength
    exact List.length_eq_zero_iff.mp (by omega)
  rw [← hRest, hNone, List.append_nil]

end Text

/-- How many delimiters stand before the one that the key follows. -/
def Layout.innerDelimiters : Layout → Nat
  | compact => 0
  | selfDescribing => 2

/-- The text of a record up to its last delimiter, and the digits of its key. -/
theorem Record.exists_key_of_parse {record : Record} {fields : Fields}
    (hParse : record.parse = .ok fields) :
    ∃ front key, record.text.toList = front ++ ':' :: key ∧ Hex.Spells key fields.key ∧
      front.count ':' = fields.layout.innerDelimiters := by
  have hSpells := spells_of_parse hParse
  generalize record.text.toList = cs at hSpells
  cases hSpells with
  | @compact salt key bytes hEnd =>
      exact ⟨salt, key, rfl, hEnd.key_spells, List.count_eq_zero.mpr hEnd.colon_not_mem_salt⟩
  | @selfDescribing q salt key cost bytes hCost hEnd =>
      refine ⟨['s', 'c', 'r', 'y', 'p', 't', ':'] ++ q ++ ':' :: salt, key, rfl,
        hEnd.key_spells, ?_⟩
      have hQ := List.count_eq_zero.mpr (Cost.colon_not_mem_of_spells hCost)
      have hSalt := List.count_eq_zero.mpr hEnd.colon_not_mem_salt
      simp [List.count_append, hQ, hSalt, Layout.innerDelimiters]

namespace Hasher

variable {h : Hasher} {record whole cut : Record}

/-- Of two records that are current for one hasher neither is a proper beginning of the other: the
keys that end them have the same length and hold no delimiter. -/
theorem IsCurrent.eq_of_prefix {salt salt' : String} {key key' : List UInt8}
    (hCut : h.IsCurrent cut salt key) (hWhole : h.IsCurrent whole salt' key')
    (hPrefix : cut.text.toList <+: whole.text.toList) : cut = whole := by
  obtain ⟨front, last, hText, hKey, hCount⟩ := Record.exists_key_of_parse hCut.parse
  obtain ⟨front', last', hText', hKey', hCount'⟩ := Record.exists_key_of_parse hWhole.parse
  have hLength : last.length = last'.length := by
    rw [Hex.length_of_spells hKey, Hex.length_of_spells hKey']
    exact congrArg (2 * ·) (hCut.length_key.trans hWhole.length_key.symm)
  rw [hText, hText'] at hPrefix
  have hChars := Text.eq_of_prefix (Hex.colon_not_mem_of_spells hKey)
    (Hex.colon_not_mem_of_spells hKey') (hCount.trans hCount'.symm) hLength hPrefix
  rw [← hText, ← hText'] at hChars
  exact congrArg Record.mk (String.toList_inj.mp hChars)

/-- A record is malformed, outdated or current; it is never judged otherwise. -/
theorem needsRehash_cases (h : Hasher) (record : Record) :
    (∃ fault, h.needsRehash record = .error (.malformedRecord fault)) ∨
      h.needsRehash record = .ok true ∨ h.needsRehash record = .ok false := by
  rw [needsRehash]
  cases record.parse with
  | error fault => exact .inl ⟨fault, rfl⟩
  | ok fields =>
      right
      rw [Except.ok.injEq, Except.ok.injEq]
      exact Bool.eq_false_or_eq_true _

/-- A proper beginning of a current record is never current itself. -/
theorem needsRehash_ne_false_of_prefix (hWhole : h.needsRehash whole = .ok false)
    (hPrefix : cut.text.toList <+: whole.text.toList) (hProper : cut ≠ whole) :
    h.needsRehash cut ≠ .ok false := by
  intro hCut
  obtain ⟨salt, key, hCurrent⟩ := needsRehash_eq_false_iff.mp hWhole
  obtain ⟨salt', key', hCutCurrent⟩ := needsRehash_eq_false_iff.mp hCut
  exact hProper (hCutCurrent.eq_of_prefix hCurrent hPrefix)

/-- No text of a current record begins the text of another one. A record that a hasher has made is
current, and however much of its end is lost, what is left is malformed or outdated to the
hasher. -/
theorem cut_records_are_not_current (h : Hasher) :
    (∀ cut whole : Record, h.needsRehash whole = .ok false →
      cut.text.toList <+: whole.text.toList → cut ≠ whole → h.needsRehash cut ≠ .ok false) ∧
      ∀ password salt record, (h.hashWithSalt password salt).answer = .ok record →
        h.needsRehash record = .ok false ∧
          ∀ length < record.text.toList.length,
            let cut : Record := ⟨String.ofList (record.text.toList.take length)⟩
            (∃ fault, h.needsRehash cut = .error (.malformedRecord fault)) ∨
              h.needsRehash cut = .ok true := by
  refine ⟨fun cut whole => needsRehash_ne_false_of_prefix, ?_⟩
  intro password salt record hRecord
  obtain ⟨key, hCurrent, -⟩ := isCurrent_of_hashWithSalt hRecord
  have hWhole := needsRehash_eq_false_iff.mpr ⟨salt, key, hCurrent⟩
  refine ⟨hWhole, fun length hShorter => ?_⟩
  intro cut
  have hText : cut.text.toList = record.text.toList.take length := String.toList_ofList
  have hProper : cut ≠ record := by
    intro hSame
    have hLength := congrArg List.length hText
    rw [hSame, List.length_take] at hLength
    omega
  have hNot := needsRehash_ne_false_of_prefix hWhole (hText ▸ List.take_prefix _ _) hProper
  rcases h.needsRehash_cases cut with hFault | hTrue | hFalse
  · exact .inl hFault
  · exact .inr hTrue
  · exact absurd hFalse hNot

/-- A key of 64 bytes that loses one is still a key, so that the record can be read; it is outdated
then. A record that is cut inside its cost has two fields, as a compact one has. -/
theorem testing_finds_cut_records :
    let shorter : Record :=
      ⟨"scrypt:p=+1,ln=010,r=8:salt:" ++ String.ofList (List.replicate 126 'A')⟩
    (testing.needsRehash respelledRecord = .ok false ∧
      shorter.text.toList <+: respelledRecord.text.toList ∧ shorter ≠ respelledRecord ∧
        testing.needsRehash shorter = .ok true ∧ testing.needsRehash shorter ≠ .ok false) ∧
      ∃ record, (testing.hashWithSalt [0x70] "salt").answer = .ok record ∧
        9 < record.text.toList.length ∧
          let cut : Record := ⟨String.ofList (record.text.toList.take 9)⟩
          (∃ fault, testing.needsRehash cut = .error (.malformedRecord fault)) ∨
            testing.needsRehash cut = .ok true := by
  intro shorter
  obtain ⟨hProper, hMade⟩ := cut_records_are_not_current testing
  have hShorter : shorter.parse =
      .ok ⟨.selfDescribing, ⟨10, 8, 1⟩, "salt", List.replicate 63 0xaa⟩ := by decide +kernel
  have hCurrent : testing.needsRehash respelledRecord = .ok false :=
    needsRehash_eq_false_iff.mpr ⟨_, _, parse_respelledRecord, rfl⟩
  have hOutdated : testing.needsRehash shorter = .ok true := by
    rw [needsRehash_of_parse hShorter]
    rfl
  have hText (n : Nat) :
      ("scrypt:p=+1,ln=010,r=8:salt:" ++ String.ofList (List.replicate n 'A')).toList =
        "scrypt:p=+1,ln=010,r=8:salt:".toList ++ List.replicate n 'A' :=
    String.toList_append.trans (congrArg _ String.toList_ofList)
  have hPrefix : shorter.text.toList <+: respelledRecord.text.toList := by
    have hKeys : List.replicate 126 'A' <+: List.replicate 128 'A' := ⟨['A', 'A'], rfl⟩
    have hTexts := (List.prefix_append_right_inj "scrypt:p=+1,ln=010,r=8:salt:".toList).mpr hKeys
    rwa [← hText 126, ← hText 128] at hTexts
  have hNe : shorter ≠ respelledRecord := by
    intro hSame
    rw [hSame, hCurrent] at hOutdated
    cases hOutdated
  refine ⟨⟨hCurrent, hPrefix, hNe, hOutdated,
    hProper shorter respelledRecord hCurrent hPrefix hNe⟩, ?_⟩
  have hUsable : usableSalt "salt" := by decide
  obtain ⟨_, -, -, hRecord⟩ := testing.exists_hashWithSalt [0x70] (by decide) hUsable.1 hUsable.2
  refine ⟨_, hRecord, ?_⟩
  generalize Fields.encode _ = record at hRecord ⊢
  obtain ⟨key, hMadeCurrent, -⟩ := isCurrent_of_hashWithSalt hRecord
  obtain ⟨front, digits, hChars, hDigits, -⟩ := Record.exists_key_of_parse hMadeCurrent.parse
  have hLength : 9 < record.text.toList.length := by
    have hKey : key.length = 64 := hMadeCurrent.length_key
    have hSize : digits.length = 2 * key.length := Hex.length_of_spells hDigits
    rw [hChars, List.length_append, List.length_cons]
    omega
  exact ⟨hLength, (hMade [0x70] "salt" record hRecord).2 9 hLength⟩

end Hasher

end PasswordHashing
