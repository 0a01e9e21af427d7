/-!
Blank characters (White_Space in Unicode) and text without blanks at its ends. Zero-width characters
are not blank. Text that has no blank at all is left as it is (`Unbroken.trim_eq`), and what stands
before such text loses the blanks at its start alone (`trim_append`). What is left of any text is
said by `trim_eq_iff`.
-/

namespace PasswordHashing.Text

def isBlank (c : Char) : Bool :=
  (0x9 ≤ c.toNat && c.toNat ≤ 0xd) || c.toNat == 0x20 || c.toNat == 0x85 || c.toNat == 0xa0 ||
    c.toNat == 0x1680 || (0x2000 ≤ c.toNat && c.toNat ≤ 0x200a) || c.toNat == 0x2028 ||
    c.toNat == 0x2029 || c.toNat == 0x202f || c.toNat == 0x205f || c.toNat == 0x3000

def trimStart (cs : List Char) : List Char :=
  cs.dropWhile isBlank

def trimEnd (cs : List Char) : List Char :=
  (trimStart cs.reverse).reverse

def trim (cs : List Char) : List Char :=
  trimEnd (trimStart cs)

/-- Text without any blank. -/
def Unbroken (cs : List Char) : Prop :=
  ∀ c ∈ cs, isBlank c = false

theorem isBlank_of_visible {c : Char} (hLow : 0x21 ≤ c.toNat) (hHigh : c.toNat ≤ 0x7e) :
    isBlank c = false := by
  simp only [isBlank, Bool.or_eq_false_iff, Bool.and_eq_false_iff, decide_eq_false_iff_not,
    beq_eq_false_iff_ne]
  omega

theorem Unbroken.append {cs ds : List Char} (hCs : Unbroken cs) (hDs : Unbroken ds) :
    Unbroken (cs ++ ds) := by
  intro c hMem
  rcases List.mem_append.mp hMem with hMem | hMem
  · exact hCs c hMem
  · exact hDs c hMem

theorem Unbroken.reverse {cs : List Char} (hCs : Unbroken cs) : Unbroken cs.reverse :=
  fun c hMem => hCs c (List.mem_reverse.mp hMem)

theorem Unbroken.trimStart_eq {cs : List Char} (hCs : Unbroken cs) : trimStart cs = cs := by
  cases cs with
  | nil => rfl
  | cons c cs => rw [trimStart, List.dropWhile_cons, hCs c List.mem_cons_self, if_neg (by simp)]

theorem Unbroken.trim_eq {cs : List Char} (hCs : Unbroken cs) : trim cs = cs := by
  rw [trim, trimEnd, hCs.trimStart_eq, hCs.reverse.trimStart_eq, List.reverse_reverse]

theorem Unbroken.trimStart_append {cs : List Char} (hCs : Unbroken cs) (hNonempty : cs ≠ [])
    (ds : List Char) : trimStart (cs ++ ds) = cs ++ ds := by
  have hKept : cs.dropWhile isBlank = cs := hCs.trimStart_eq
  rw [trimStart, List.dropWhile_append, hKept, if_neg (by simpa using hNonempty)]

/-- Blanks are not looked for beyond text without any. -/
theorem trim_append {cs ds : List Char} (hDs : Unbroken ds) (hNonempty : ds ≠ []) :
    trim (cs ++ ds) = trimStart cs ++ ds := by
  have hStart : trimStart (cs ++ ds) = trimStart cs ++ ds := by
    have hKept : ds.dropWhile isBlank = ds := hDs.trimStart_eq
    rw [trimStart, trimStart, List.dropWhile_append, hKept]
    split
    · rename_i hEmpty
      rw [List.isEmpty_iff.mp hEmpty, List.nil_append]
    · rfl
  rw [trim, trimEnd, hStart, List.reverse_append,
    hDs.reverse.trimStart_append (by simpa using hNonempty), ← List.reverse_append,
    List.reverse_reverse]

/-- What is left of a text without the blanks at its ends: nothing but blanks is taken away, and no
blank is left to take. -/
structure Trimmed (cs core : List Char) : Prop where
  ends : ∃ before after, cs = before ++ core ++ after ∧
    (∀ c ∈ before, isBlank c = true) ∧ ∀ c ∈ after, isBlank c = true
  first : ∀ c ∈ core.head?, isBlank c = false
  last : ∀ c ∈ core.getLast?, isBlank c = false

/-- All blanks at the start are taken away, and nothing after the first other character. -/
theorem trimStart_blanks_append {blanks cs : List Char} (hBlanks : ∀ c ∈ blanks, isBlank c = true)
    (hFirst : ∀ c ∈ cs.head?, isBlank c = false) : trimStart (blanks ++ cs) = cs := by
  rw [trimStart, List.dropWhile_append_of_pos hBlanks]
  cases cs with
  | nil => rfl
  | cons c cs => rw [List.dropWhile_cons_of_neg (by simp [hFirst c rfl])]

theorem exists_blanks_append_trimStart (cs : List Char) :
    ∃ blanks, cs = blanks ++ trimStart cs ∧ ∀ c ∈ blanks, isBlank c = true :=
  ⟨cs.takeWhile isBlank, List.takeWhile_append_dropWhile.symm,
    fun c hMem => List.all_eq_true.mp List.all_takeWhile c hMem⟩

theorem not_isBlank_of_mem_head?_trimStart {cs : List Char} {c : Char}
    (hMem : c ∈ (trimStart cs).head?) : isBlank c = false := by
  have hHead := List.head?_dropWhile_not isBlank cs
  rw [trimStart, Option.mem_def] at hMem
  rwa [hMem] at hHead

/-- A text has no other core than the one that trimming leaves. -/
theorem Trimmed.trim_eq {cs core : List Char} (hTrimmed : Trimmed cs core) : trim cs = core := by
  obtain ⟨⟨before, after, rfl, hBefore, hAfter⟩, hFirst, hLast⟩ := hTrimmed
  cases core with
  | nil =>
      have hBlanks : ∀ c ∈ before ++ after, isBlank c = true := by
        simpa only [List.forall_mem_append] using And.intro hBefore hAfter
      have hNone : ∀ c ∈ ([] : List Char).head?, isBlank c = false := nofun
      have hStart : trimStart (before ++ after) = [] := by
        simpa only [List.append_nil] using trimStart_blanks_append hBlanks hNone
      rw [trim, List.append_nil, hStart]
      rfl
  | cons c core =>
      have hStart : trimStart (before ++ (c :: core ++ after)) = c :: core ++ after :=
        trimStart_blanks_append hBefore hFirst
      rw [trim, List.append_assoc, hStart, trimEnd, List.reverse_append,
        trimStart_blanks_append (by simpa using hAfter) (by rwa [List.head?_reverse]),
        List.reverse_reverse]

/-- Trimming leaves a core, for every text. -/
theorem trimmed_trim (cs : List Char) : Trimmed cs (trim cs) := by
  obtain ⟨before, hCs, hBefore⟩ := exists_blanks_append_trimStart cs
  obtain ⟨after, hRest, hAfter⟩ := exists_blanks_append_trimStart (trimStart cs).reverse
  have hStart : trimStart cs = trim cs ++ after.reverse := by
    rw [trim, trimEnd, ← List.reverse_append, ← hRest, List.reverse_reverse]
  refine ⟨⟨before, after.reverse, ?_, hBefore, by simpa using hAfter⟩, ?_, ?_⟩
  · rw [List.append_assoc, ← hStart, ← hCs]
  · intro c hMem
    have hHead : c ∈ (trimStart cs).head? := by
      rw [hStart, List.head?_append, Option.mem_def.mp hMem]
      rfl
    exact not_isBlank_of_mem_head?_trimStart hHead
  · intro c hMem
    rw [trim, trimEnd, List.getLast?_reverse] at hMem
    exact not_isBlank_of_mem_head?_trimStart hMem

/-- Trimming is told by what is left: one text alone is left of each. -/
theorem trim_eq_iff {cs core : List Char} : trim cs = core ↔ Trimmed cs core := by
  constructor
  · rintro rfl
    exact trimmed_trim cs
  · exact Trimmed.trim_eq

/-- Nothing is left exactly of a text that is blank. -/
theorem trim_eq_nil_iff {cs : List Char} : trim cs = [] ↔ ∀ c ∈ cs, isBlank c = true := by
  rw [trim_eq_iff]
  constructor
  · rintro ⟨⟨before, after, rfl, hBefore, hAfter⟩, -, -⟩
    simpa only [List.append_nil, List.forall_mem_append] using And.intro hBefore hAfter
  · intro hBlank
    exact ⟨⟨cs, [], by simp, hBlank, nofun⟩, nofun, nofun⟩

end PasswordHashing.Text
