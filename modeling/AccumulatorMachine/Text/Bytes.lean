/-!
# Texts as bytes

What comes from outside, the content of a file or the value of a variable, is made of
bytes. A text stands for its bytes in UTF-8; bytes that are not those of any text encode
none.
-/

namespace AccumulatorMachine.Text

/-- The bytes of a text in UTF-8. -/
def toBytes (text : String) : List UInt8 :=
  text.toUTF8.data.toList

/-- The text that bytes encode in UTF-8, if they encode one. -/
def ofBytes? (bytes : List UInt8) : Option String :=
  String.fromUTF8? ⟨bytes.toArray⟩

/-- Bytes encode a text exactly if they are its bytes. -/
theorem ofBytes?_eq_some_iff {bytes : List UInt8} {text : String} :
    ofBytes? bytes = some text ↔ bytes = toBytes text := by
  unfold ofBytes? String.fromUTF8?
  constructor
  · intro h
    split at h
    · next hvalid =>
      obtain rfl := Option.some.inj h
      rfl
    · exact absurd h (by simp)
  · rintro rfl
    have hbytes : (⟨(toBytes text).toArray⟩ : ByteArray) = text.toUTF8 := by
      unfold toBytes
      rw [Array.toArray_toList]
    rw [hbytes]
    exact dif_pos text.isValidUTF8

end AccumulatorMachine.Text
