import PasswordHashing.Proofs.CurrentRecords

/-! Records with a fresh salt. Two passwords, or one password twice, are hashed with two draws of
random bytes. Either record is one that the hasher would make and opens for its password, and its
text shows the bytes of its draw, so that different draws never give one text. Nothing is said about
how the bytes are drawn. -/
namespace PasswordHashing

/-- A hexadecimal digit that is not of the upper case. -/
def Hex.IsLowerDigit (c : Char) : Prop :=
  ('0' ≤ c ∧ c ≤ '9') ∨ ('a' ≤ c ∧ c ≤ 'f')

theorem Hex.isLowerDigit_of_mem_encode {bytes : List UInt8} {c : Char}
    (hMem : c ∈ encode bytes) : IsLowerDigit c := by
  have hDigit : ∀ n : Fin 16, ('0' ≤ digit n ∧ digit n ≤ '9') ∨
      ('a' ≤ digit n ∧ digit n ≤ 'f') := by decide
  exact forall_mem_encode hDigit bytes c hMem

namespace Hasher

variable {h : Hasher} {password other : List UInt8} {record record' : Record}
  {draw draw' : Vector UInt8 h.policy.saltLength.toNat}

/-- The record opens for the password, shows the settings of the hasher, and has a salt of two
digits for each byte of the draw. -/
structure IsFresh (h : Hasher) (password : List UInt8)
    (draw : Vector UInt8 h.policy.saltLength.toNat) (record : Record) : Prop where
  verify : (h.verify password record).answer = .ok true
  shape : ∃ salt key, h.IsCurrent record salt key ∧
    salt.toList.length = 2 * h.policy.saltLength.toNat ∧
      (∀ c ∈ salt.toList, Hex.IsLowerDigit c) ∧ Hex.Spells salt.toList draw.toList

/-- Different draws give different salts. -/
theorem saltOfDraw_injective {n : Nat} {draw draw' : Vector UInt8 n}
    (hSame : saltOfDraw draw = saltOfDraw draw') : draw = draw' := by
  have hBytes := congrArg (fun salt => Hex.decode salt.toList) hSame
  simp only [saltOfDraw, String.toList_ofList, Hex.decode_encode, Except.ok.injEq] at hBytes
  exact Vector.toList_inj.mp hBytes

theorem isFresh_of_hash (hRecord : (h.hash password draw).answer = .ok record) :
    h.IsFresh password draw record := by
  obtain ⟨key, hCurrent, -⟩ := isCurrent_of_hashWithSalt hRecord
  have hSalt : (saltOfDraw draw).toList = Hex.encode draw.toList := String.toList_ofList
  refine ⟨verify_of_hashWithSalt hRecord, saltOfDraw draw, key, hCurrent, ?_⟩
  rw [hSalt]
  refine ⟨?_, fun c => Hex.isLowerDigit_of_mem_encode, Hex.spells_encode _⟩
  rw [Hex.length_encode, Vector.length_toList]

/-- Two records have one text exactly if draws and keys are the same: neither salt nor key can make
up for the other, in either layout. -/
theorem hash_eq_hash_iff (hRecord : (h.hash password draw).answer = .ok record)
    (hRecord' : (h.hash other draw').answer = .ok record') :
    record = record' ↔ draw = draw' ∧
      h.cost.scrypt password (saltOfDraw draw) h.policy.keyLength.toNat =
        h.cost.scrypt other (saltOfDraw draw') h.policy.keyLength.toNat := by
  obtain ⟨-, ⟨hSalt, hColon⟩, key, hKey, rfl⟩ := h.hashWithSalt_eq_ok_iff.mp hRecord
  obtain ⟨-, ⟨hSalt', hColon'⟩, key', hKey', rfl⟩ := h.hashWithSalt_eq_ok_iff.mp hRecord'
  have hStorable := h.storable hSalt hColon (Scrypt.length_eq_of_derive hKey)
  have hStorable' := h.storable hSalt' hColon' (Scrypt.length_eq_of_derive hKey')
  rw [Fields.encode_eq_encode_iff hStorable hStorable', Fields.told_eq_told_iff, hKey, hKey']
  constructor
  · rintro ⟨-, hSame, rfl, -⟩
    exact ⟨saltOfDraw_injective hSame, rfl⟩
  · rintro ⟨rfl, hSame⟩
    exact ⟨rfl, rfl, Option.some.inj hSame, fun _ => rfl⟩

/-- Any two passwords have records under any two draws. Both open for their password and are of the
shape that the policy asks for. They have one text exactly if the draws are the same and scrypt
gives the passwords the same key, so that different draws give different texts, also for one
password. -/
theorem fresh_records_differ (h : Hasher) (hPassword : password ≠ []) (hOther : other ≠ [])
    (draw draw' : Vector UInt8 h.policy.saltLength.toNat) :
    ∃ record record', (h.hash password draw).answer = .ok record ∧
      (h.hash other draw').answer = .ok record' ∧
        h.IsFresh password draw record ∧ h.IsFresh other draw' record' ∧
          (draw ≠ draw' → record.text ≠ record'.text) ∧
            (record.text = record'.text ↔ draw = draw' ∧
              h.cost.scrypt password (saltOfDraw draw) h.policy.keyLength.toNat =
                h.cost.scrypt other (saltOfDraw draw') h.policy.keyLength.toNat) := by
  obtain ⟨record, hRecord⟩ := h.exists_hash hPassword draw
  obtain ⟨record', hRecord'⟩ := h.exists_hash hOther draw'
  have hText : record.text = record'.text ↔ record = record' := by
    rw [← Record.mk.injEq]
  have hSame := hash_eq_hash_iff hRecord hRecord'
  rw [← hText] at hSame
  refine ⟨record, record', hRecord, hRecord', isFresh_of_hash hRecord, isFresh_of_hash hRecord',
    ?_, hSame⟩
  intro hDraws hTexts
  exact hDraws (hSame.mp hTexts).1

/-- One password, hashed with two draws that differ in a single bit. -/
theorem testing_records_differ :
    let draw (last : UInt8) : Vector UInt8 testing.policy.saltLength.toNat :=
      (Vector.replicate 15 0).push last
    ([0x70] : List UInt8) ≠ [] ∧ draw 0 ≠ draw 1 ∧
      ∃ record record', (testing.hash [0x70] (draw 0)).answer = .ok record ∧
        (testing.hash [0x70] (draw 1)).answer = .ok record' ∧ record.text ≠ record'.text ∧
          (testing.verify [0x70] record).answer = .ok true ∧
            (testing.verify [0x70] record').answer = .ok true := by
  intro draw
  have hPassword : ([0x70] : List UInt8) ≠ [] := by decide
  have hDraws : draw 0 ≠ draw 1 := by
    intro hSame
    have hLast := congrArg (·.toList.getLast?) hSame
    cases hLast
  obtain ⟨record, record', hRecord, hRecord', hFresh, hFresh', hDiffer, -⟩ :=
    fresh_records_differ testing hPassword hPassword (draw 0) (draw 1)
  exact ⟨hPassword, hDraws, record, record', hRecord, hRecord', hDiffer hDraws, hFresh.verify,
    hFresh'.verify⟩

end Hasher

end PasswordHashing
