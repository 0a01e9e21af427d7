/-!
Text made of fields with a delimiter between them. Splitting loses nothing (`intercalate_split`) and
finds no delimiter inside a field (`not_mem_of_mem_split`).
-/

namespace PasswordHashing.Text

/-- The fields between the delimiters; text without a delimiter is one field, also when it is
empty. -/
def split (delimiter : Char) (cs : List Char) : List (List Char) :=
  cs.foldr
    (fun c fields =>
      if c = delimiter then [] :: fields
      else
        match fields with
        | [] => [[c]]
        | field :: fields => (c :: field) :: fields)
    [[]]

/-- The text before and after the first separator, if there is one. -/
def cut? (separator : Char) (cs : List Char) : Option (List Char × List Char) :=
  match cs.dropWhile (· ≠ separator) with
  | [] => none
  | _ :: after => some (cs.takeWhile (· ≠ separator), after)

@[simp] theorem split_nil (delimiter : Char) : split delimiter [] = [[]] := rfl

@[simp] theorem split_cons_delimiter (delimiter : Char) (cs : List Char) :
    split delimiter (delimiter :: cs) = [] :: split delimiter cs := by
  simp [split]

theorem split_cons_of_ne {delimiter c : Char} {cs field : List Char} {fields : List (List Char)}
    (hNe : c ≠ delimiter) (hSplit : split delimiter cs = field :: fields) :
    split delimiter (c :: cs) = (c :: field) :: fields := by
  have hStep : split delimiter (c :: cs) =
      match split delimiter cs with
      | [] => [[c]]
      | field :: fields => (c :: field) :: fields := by
    simp [split, hNe]
  rw [hStep, hSplit]

theorem exists_split_eq_cons (delimiter : Char) (cs : List Char) :
    ∃ field fields, split delimiter cs = field :: fields := by
  induction cs with
  | nil => exact ⟨[], [], rfl⟩
  | cons c cs ih =>
      obtain ⟨field, fields, hSplit⟩ := ih
      by_cases hEq : c = delimiter
      · subst hEq
        exact ⟨[], _, split_cons_delimiter c cs⟩
      · exact ⟨_, _, split_cons_of_ne hEq hSplit⟩

/-- Splitting loses nothing: the fields with the delimiters between them are the text again. -/
theorem intercalate_split (delimiter : Char) (cs : List Char) :
    [delimiter].intercalate (split delimiter cs) = cs := by
  induction cs with
  | nil => rfl
  | cons c cs ih =>
      obtain ⟨field, fields, hSplit⟩ := exists_split_eq_cons delimiter cs
      rw [hSplit] at ih
      by_cases hEq : c = delimiter
      · subst hEq
        rw [split_cons_delimiter, hSplit]
        simpa [List.intercalate, List.intersperse] using ih
      · rw [split_cons_of_ne hEq hSplit]
        cases fields <;> simpa [List.intercalate, List.intersperse] using ih

theorem not_mem_of_mem_split {delimiter : Char} {cs field : List Char}
    (hField : field ∈ split delimiter cs) : delimiter ∉ field := by
  induction cs generalizing field with
  | nil => simp_all
  | cons c cs ih =>
      by_cases hEq : c = delimiter
      · subst hEq
        rw [split_cons_delimiter, List.mem_cons] at hField
        rcases hField with rfl | hField
        · simp
        · exact ih hField
      · obtain ⟨first, fields, hSplit⟩ := exists_split_eq_cons delimiter cs
        rw [split_cons_of_ne hEq hSplit, List.mem_cons] at hField
        rw [hSplit] at ih
        rcases hField with rfl | hField
        · simp only [List.mem_cons, not_or]
          exact ⟨fun h => hEq h.symm, ih List.mem_cons_self⟩
        · exact ih (List.mem_cons_of_mem first hField)

end PasswordHashing.Text
