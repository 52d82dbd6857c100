import TurtleMarkup.Text.Basic

/-!
# Text as bytes

The UTF-8 form of a text, and the text of which some bytes are the UTF-8 form.
-/

namespace TurtleMarkup.Text

/-- The UTF-8 form of a text. -/
def encode (t : Text) : ByteArray := (String.ofList t).toUTF8

/-- The text with a given UTF-8 form, if there is one. -/
def decode? (bytes : ByteArray) : Option Text := (String.fromUTF8? bytes).map String.toList

theorem encode_append (a b : Text) : encode (a ++ b) = encode a ++ encode b := by
  rw [encode, String.ofList_append]
  exact String.toByteArray_append

/-- The UTF-8 form has as many bytes as the text takes. -/
theorem size_encode (t : Text) : (encode t).size = t.byteSize := by
  induction t with
  | nil => rfl
  | cons c t ih =>
    have hchar : (encode [c]).size = c.utf8Size := String.utf8ByteSize_singleton (c := c)
    rw [← List.singleton_append, encode_append, ByteArray.size_append, hchar, ih]
    rfl

/-- A text is read back from its bytes. -/
@[simp] theorem decode?_encode (t : Text) : decode? (encode t) = some t := by
  have h : String.fromUTF8? (String.ofList t).toUTF8 = some (String.ofList t) :=
    dif_pos (String.ofList t).isValidUTF8
  rw [decode?, encode, h, Option.map_some, String.toList_ofList]

/-- Bytes spell a text exactly when they are its UTF-8 form. -/
theorem decode?_eq_some_iff {bytes : ByteArray} {t : Text} :
    decode? bytes = some t ↔ bytes = encode t := by
  constructor
  · intro h
    obtain ⟨s, hs, rfl⟩ := Option.map_eq_some_iff.1 h
    rw [String.fromUTF8?] at hs
    split at hs
    · cases hs
      rw [encode, String.ofList_toList]
      rfl
    · cases hs
  · rintro rfl
    exact decode?_encode t

end TurtleMarkup.Text
