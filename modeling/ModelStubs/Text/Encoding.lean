import ModelStubs.Text

/-!
# Texts and bytes

A text is stored in a file as UTF-8. Reading undoes writing (`decode?_encode`); a file whose bytes are not UTF-8 has no
text.
-/

namespace ModelStubs.Text

/-- Bytes are compared by this instance, whatever others are imported. -/
instance (priority := high) decEqBytes : DecidableEq ByteArray := ByteArray.decEq

/-- The UTF-8 bytes of a text. -/
def encode (t : Text) : ByteArray := (String.ofList t).toUTF8

/-- The text that bytes spell in UTF-8, if they do. -/
def decode? (bytes : ByteArray) : Option Text := (String.fromUTF8? bytes).map String.toList

/-- What a text is encoded as is decoded as that text. -/
@[simp] theorem decode?_encode (t : Text) : decode? (encode t) = some t := by
  have h : String.fromUTF8? (String.ofList t).toUTF8 = some (String.ofList t) := by
    unfold String.fromUTF8?
    exact dif_pos (String.ofList t).isValidUTF8
  rw [decode?, encode, h, Option.map_some, String.toList_ofList]

/-- The number of bytes of a text in UTF-8. -/
def byteLength : Text → Nat
  | [] => 0
  | c :: rest => c.utf8Size + byteLength rest

end ModelStubs.Text
