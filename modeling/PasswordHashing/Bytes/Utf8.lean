/-!
Texts as the bytes of their UTF-8 form. `decode_encode` says that reading undoes writing; bytes that
are no UTF-8 form have no text.
-/

namespace PasswordHashing.Utf8

def encode (text : String) : List UInt8 :=
  text.toUTF8.data.toList

def decode (bytes : List UInt8) : Option String :=
  String.fromUTF8? ⟨bytes.toArray⟩

@[simp] theorem decode_encode (text : String) : decode (encode text) = some text := by
  have hValid : text.toByteArray.IsValidUTF8 := text.isValidUTF8
  simp [decode, encode, String.fromUTF8?, hValid, String.fromUTF8]

/-- Different texts have different bytes, so that names of variables can be told apart. -/
theorem encode_injective {s t : String} (hEncode : encode s = encode t) : s = t := by
  have hSome : some s = some t := by rw [← decode_encode s, hEncode, decode_encode]
  exact Option.some.inj hSome

end PasswordHashing.Utf8
