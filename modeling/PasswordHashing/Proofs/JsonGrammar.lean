import PasswordHashing.Json.Value
import PasswordHashing.Proofs.JsonTokens

/-! The grammar of JSON. A value has its tokens, and a text denotes the value if it spells them. The
reader goes through the tokens with a stack of what is still open. What it holds always tells the
tokens it has taken, so that it accepts no others. -/
namespace PasswordHashing.Json

mutual

def Value.tokens : Value → List Token
  | .null => [.null]
  | .bool value => [.bool value]
  | .number written => [.number written]
  | .string text => [.string text]
  | .array [] => [.openArray, .closeArray]
  | .array (item :: items) => .openArray :: (item.tokens ++ moreItems items)
  | .object [] => [.openObject, .closeObject]
  | .object ((key, value) :: members) =>
      .openObject :: .string key :: .colon :: (value.tokens ++ moreMembers members)

/-- The tokens of an array after an item. -/
def moreItems : List Value → List Token
  | [] => [.closeArray]
  | item :: items => .comma :: (item.tokens ++ moreItems items)

def moreMembers : List (Option String × Value) → List Token
  | [] => [.closeObject]
  | (key, value) :: members =>
      .comma :: .string key :: .colon :: (value.tokens ++ moreMembers members)

end

/-- A text denotes a value if it spells the tokens of it. -/
def Denotes (cs : List Char) (v : Value) : Prop :=
  Spells cs v.tokens

section

variable {ts : List Token} {t : Token}

theorem separated_cons_mark (hMark : t.isMark = true) (hRest : Separated ts) :
    Separated (t :: ts) :=
  List.isChain_cons.mpr ⟨fun _ _ => .inl hMark, hRest⟩

theorem separated_cons (hHead : ∀ u ∈ ts.head?, u.isMark = true) (hRest : Separated ts) :
    Separated (t :: ts) :=
  List.isChain_cons.mpr ⟨fun u hMem => .inr (hHead u hMem), hRest⟩

/-- After an item there stands a mark: a comma or the closing bracket. -/
theorem head?_moreItems (items : List Value) :
    ∀ t ∈ (moreItems items ++ ts).head?, t.isMark = true := by
  cases items <;> rintro t ⟨⟩ <;> rfl

theorem head?_moreMembers (members : List (Option String × Value)) :
    ∀ t ∈ (moreMembers members ++ ts).head?, t.isMark = true := by
  cases members <;> rintro t ⟨⟩ <;> rfl

end

mutual

/-- A value followed by a mark has no two tokens that could be taken for one. -/
theorem Value.separated_append {ts : List Token} (hHead : ∀ t ∈ ts.head?, t.isMark = true)
    (hRest : Separated ts) : (v : Value) → Separated (v.tokens ++ ts)
  | .null => separated_cons hHead hRest
  | .bool _ => separated_cons hHead hRest
  | .number _ => separated_cons hHead hRest
  | .string _ => separated_cons hHead hRest
  | .array [] => separated_cons_mark rfl (separated_cons_mark rfl hRest)
  | .array (item :: items) => by
      rw [Value.tokens, List.cons_append, List.append_assoc]
      exact separated_cons_mark rfl (Value.separated_append (head?_moreItems items)
        (separated_moreItems hRest items) item)
  | .object [] => separated_cons_mark rfl (separated_cons_mark rfl hRest)
  | .object ((key, value) :: members) => by
      rw [Value.tokens, List.cons_append, List.cons_append, List.cons_append, List.append_assoc]
      have hValue := Value.separated_append (head?_moreMembers members)
        (separated_moreMembers hRest members) value
      exact separated_cons_mark rfl (separated_cons (by rintro t ⟨⟩; rfl)
        (separated_cons_mark rfl hValue))

theorem separated_moreItems {ts : List Token} (hRest : Separated ts) :
    (items : List Value) → Separated (moreItems items ++ ts)
  | [] => separated_cons_mark rfl hRest
  | item :: items => by
      rw [moreItems, List.cons_append, List.append_assoc]
      exact separated_cons_mark rfl (Value.separated_append (head?_moreItems items)
        (separated_moreItems hRest items) item)

theorem separated_moreMembers {ts : List Token} (hRest : Separated ts) :
    (members : List (Option String × Value)) → Separated (moreMembers members ++ ts)
  | [] => separated_cons_mark rfl hRest
  | (key, value) :: members => by
      rw [moreMembers, List.cons_append, List.cons_append, List.cons_append, List.append_assoc]
      have hValue := Value.separated_append (head?_moreMembers members)
        (separated_moreMembers hRest members) value
      exact separated_cons_mark rfl (separated_cons (by rintro t ⟨⟩; rfl)
        (separated_cons_mark rfl hValue))

end

/-- In a value no two neighbouring tokens could be taken for one, so that no blank is ever
needed. -/
theorem Value.separated (v : Value) : Separated v.tokens := by
  have hSeparated := v.separated_append (by simp) .nil
  rwa [List.append_nil] at hSeparated

namespace Reader

/-- A reader takes tokens one at a time, so that a run can be cut anywhere. -/
theorem run_append {r next : Reader} {ts : List Token} (hRun : r.run ts = some next)
    (us : List Token) : r.run (ts ++ us) = next.run us := by
  induction ts generalizing r with
  | nil =>
      cases hRun
      rfl
  | cons t ts ih =>
      rw [run] at hRun
      rw [List.cons_append, run]
      cases hStep : r.step t with
      | none =>
          rw [hStep] at hRun
          cases hRun
      | some after =>
          rw [hStep] at hRun
          exact ih hRun

/-- No value begins with the bracket that would end an array without items. -/
theorem run_firstItem (frames : List Frame) (v : Value) :
    run ⟨.firstItem, frames⟩ v.tokens = run ⟨.value, .array [] :: frames⟩ v.tokens := by
  cases v with
  | array items => cases items <;> rfl
  | object members => cases members <;> rfl
  | _ => rfl

mutual

/-- The reader takes the tokens of a value for that value, whatever is open around it. -/
theorem run_tokens (frames : List Frame) :
    (v : Value) → run ⟨.value, frames⟩ v.tokens = some ⟨.done v, frames⟩
  | .null => rfl
  | .bool _ => rfl
  | .number _ => rfl
  | .string _ => rfl
  | .array [] => rfl
  | .array (item :: items) => by
      have hItem := run_tokens (.array [] :: frames) item
      rw [← run_firstItem] at hItem
      exact (run_append hItem _).trans (run_moreItems frames [] item items)
  | .object [] => rfl
  | .object ((key, value) :: members) =>
      (run_append (run_tokens (.object [] key :: frames) value) _).trans
        (run_moreMembers frames [] key value members)

/-- Inside an array the reader takes the items that are left and closes it, wherever the array
stands. -/
theorem run_moreItems (frames : List Frame) (before : List Value) (item : Value) :
    (items : List Value) → run ⟨.done item, .array before :: frames⟩ (moreItems items) =
      some ⟨.done (.array (before.reverse ++ item :: items)), frames⟩
  | [] => by
      rw [← List.reverse_cons]
      rfl
  | next :: items => by
      have hRest := (run_append (run_tokens (.array (item :: before) :: frames) next) _).trans
        (run_moreItems frames (item :: before) next items)
      rw [List.reverse_cons, List.append_assoc, List.singleton_append] at hRest
      exact hRest

/-- Inside an object the reader takes the members that are left and closes it. -/
theorem run_moreMembers (frames : List Frame) (before : List (Option String × Value))
    (key : Option String) (value : Value) : (members : List (Option String × Value)) →
      run ⟨.done value, .object before key :: frames⟩ (moreMembers members) =
        some ⟨.done (.object (before.reverse ++ (key, value) :: members)), frames⟩
  | [] => by
      rw [← List.reverse_cons]
      rfl
  | (next, other) :: members => by
      have hRest := (run_append (run_tokens (.object ((key, value) :: before) next :: frames) other)
        _).trans (run_moreMembers frames ((key, value) :: before) next other members)
      rw [List.reverse_cons, List.append_assoc, List.singleton_append] at hRest
      exact hRest

end

end Reader

/-- The tokens of a text are those of any value that it denotes. -/
theorem denotes_iff {cs : List Char} {v : Value} : Denotes cs v ↔ tokens [] cs = some v.tokens := by
  constructor
  · intro hDenotes
    exact tokens_of_spells hDenotes v.separated
  · intro hTokens
    obtain ⟨ts, hSpells, hEq⟩ := spells_of_tokens hTokens
    obtain rfl : v.tokens = ts := hEq
    exact hSpells

/-- A text is read as the value that it denotes. -/
theorem parse_of_denotes {cs : List Char} {v : Value} (hDenotes : Denotes cs v) :
    parse cs = some v := by
  simp only [parse, denotes_iff.mp hDenotes, Reader.run_tokens [] v]

/-- The tokens of items that are followed by others. -/
def itemTokens (items : List Value) : List Token :=
  items.flatMap fun item => item.tokens ++ [.comma]

def memberTokens (members : List (Option String × Value)) : List Token :=
  members.flatMap fun (key, value) => .string key :: .colon :: (value.tokens ++ [.comma])

theorem tokens_moreItems (items : List Value) (item last : Value) :
    item.tokens ++ moreItems (items ++ [last]) =
      itemTokens (item :: items) ++ (last.tokens ++ [.closeArray]) := by
  induction items generalizing item with
  | nil => simp [itemTokens, moreItems]
  | cons next items ih =>
      rw [List.cons_append, moreItems, ih next]
      simp [itemTokens]

/-- The tokens of an array seen from its last item, which is where a reader stands. -/
theorem tokens_array_append (items : List Value) (last : Value) :
    (Value.array (items ++ [last])).tokens =
      .openArray :: (itemTokens items ++ (last.tokens ++ [.closeArray])) := by
  cases items with
  | nil => simp [Value.tokens, itemTokens, moreItems]
  | cons item items => rw [List.cons_append, Value.tokens, tokens_moreItems]

theorem tokens_moreMembers (members : List (Option String × Value)) (value : Value)
    (lastKey : Option String) (last : Value) :
    value.tokens ++ moreMembers (members ++ [(lastKey, last)]) =
      value.tokens ++ .comma :: (memberTokens members ++
        (.string lastKey :: .colon :: (last.tokens ++ [.closeObject]))) := by
  induction members generalizing value with
  | nil => simp [memberTokens, moreMembers]
  | cons member members ih =>
      obtain ⟨key, next⟩ := member
      rw [List.cons_append, moreMembers, ih next]
      simp [memberTokens]

/-- The tokens of an object seen from its last member. -/
theorem tokens_object_append (members : List (Option String × Value)) (key : Option String)
    (last : Value) :
    (Value.object (members ++ [(key, last)])).tokens =
      .openObject :: (memberTokens members ++
        (.string key :: .colon :: (last.tokens ++ [.closeObject]))) := by
  cases members with
  | nil => simp [Value.tokens, memberTokens, moreMembers]
  | cons member members =>
      obtain ⟨first, value⟩ := member
      rw [List.cons_append, Value.tokens, tokens_moreMembers]
      simp [memberTokens]

/-- The tokens of which something open is made so far. -/
def Frame.taken : Frame → List Token
  | .array items => .openArray :: itemTokens items.reverse
  | .object members key =>
      .openObject :: (memberTokens members.reverse ++ [.string key, .colon])

/-- The tokens taken since the last frame was opened. -/
def Mode.taken : Mode → List Token
  | .value => []
  | .firstItem => [.openArray]
  | .firstKey => [.openObject]
  | .key members => .openObject :: memberTokens members.reverse
  | .colon members name => .openObject :: (memberTokens members.reverse ++ [.string name])
  | .done v => v.tokens

namespace Reader

/-- The tokens that a reader has taken. -/
def taken (r : Reader) : List Token :=
  r.frames.reverse.flatMap Frame.taken ++ r.mode.taken

/-- Where a value must begin, the next token is all that is new. -/
theorem taken_of_begin {frames : List Frame} {t : Token} {next : Reader}
    (hStep : begin frames t = some next) :
    next.taken = frames.reverse.flatMap Frame.taken ++ [t] := by
  cases t <;> cases hStep <;> simp [taken, Mode.taken, Value.tokens]

/-- After a value its own tokens are taken and the next one, in whatever frame it stands. -/
theorem taken_of_proceed {value : Value} {frames : List Frame} {t : Token} {next : Reader}
    (hStep : proceed value frames t = some next) :
    next.taken = frames.reverse.flatMap Frame.taken ++ value.tokens ++ [t] := by
  unfold proceed at hStep
  split at hStep
  all_goals cases hStep
  · simp [taken, Frame.taken, Mode.taken, itemTokens]
  · simp [taken, Frame.taken, Mode.taken, tokens_array_append]
  · simp [taken, Frame.taken, Mode.taken, memberTokens]
  · simp [taken, Frame.taken, Mode.taken, tokens_object_append]

/-- What a reader holds after a step tells one token more. -/
theorem taken_of_step {r next : Reader} {t : Token} (hStep : r.step t = some next) :
    next.taken = r.taken ++ [t] := by
  unfold step at hStep
  split at hStep
  · rename_i hMode
    rw [taken_of_begin hStep, taken, hMode, Mode.taken, List.append_nil]
  · rename_i hMode
    cases hStep
    simp [taken, hMode, Mode.taken, Value.tokens]
  · rename_i hMode _
    rw [taken_of_begin hStep]
    simp [taken, hMode, Mode.taken, Frame.taken, itemTokens]
  · rename_i hMode
    cases hStep
    simp [taken, hMode, Mode.taken, Value.tokens]
  · rename_i hMode
    cases hStep
    simp [taken, hMode, Mode.taken, memberTokens]
  · rename_i hMode
    cases hStep
    simp [taken, hMode, Mode.taken]
  · rename_i hMode
    cases hStep
    simp [taken, hMode, Mode.taken, Frame.taken]
  · rename_i hMode
    rw [taken_of_proceed hStep, taken, hMode, Mode.taken]
  · cases hStep

/-- A run takes exactly its tokens: none is left out, and none is put in. -/
theorem taken_of_run {r last : Reader} {ts : List Token} (hRun : r.run ts = some last) :
    last.taken = r.taken ++ ts := by
  induction ts generalizing r with
  | nil =>
      cases hRun
      rw [List.append_nil]
  | cons t ts ih =>
      rw [run] at hRun
      cases hStep : r.step t with
      | none =>
          rw [hStep] at hRun
          cases hRun
      | some next =>
          rw [hStep] at hRun
          rw [ih hRun, taken_of_step hStep, List.append_assoc, List.singleton_append]

end Reader

/-- A text is read as a value exactly if it denotes that value. -/
theorem parse_eq_some_iff {cs : List Char} {v : Value} : parse cs = some v ↔ Denotes cs v := by
  constructor
  · intro hParse
    unfold parse at hParse
    split at hParse
    · cases hParse
    rename_i found hTokens
    split at hParse
    · rename_i hRun
      cases hParse
      obtain rfl : v.tokens = found := Reader.taken_of_run hRun
      exact denotes_iff.mpr hTokens
    · cases hParse
  · exact parse_of_denotes

end PasswordHashing.Json
