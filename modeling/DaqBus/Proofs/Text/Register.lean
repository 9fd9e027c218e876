import DaqBus.Proofs.Text.Decoding
import DaqBus.Proofs.Text.Numeral
import DaqBus.Proofs.Tree.Access

/-!
# Content that reads back

What an attribute is given as text or as a number reads back as that: the text if it fits into one read
and does not end in a line feed, a number always.
-/

namespace DaqBus.Attribute

/-- Text that fits into one read is read whole. -/
theorem decode_take_encode {text : String} (hsize : text.utf8ByteSize ≤ Backend.textLimit) :
    Text.Utf8.decode ((Text.Utf8.encode text).take Backend.textLimit) = text := by
  have hlength : (Text.Utf8.encode text).length ≤ Backend.textLimit := by
    rw [Text.Utf8.length_encode]
    exact hsize
  rw [List.take_of_length_le hlength, Text.Utf8.decode_encode]

theorem textOf_encode {text : String} (hsize : text.utf8ByteSize ≤ Backend.textLimit)
    (hlast : text.toList.getLast? ≠ some '\n') : textOf (Text.Utf8.encode text) = text := by
  rw [textOf, decode_take_encode hsize, Text.trimNewlines_of_getLast? hlast]

theorem length_encode_le (text : String) :
    (Text.Utf8.encode text).length ≤ 4 * text.toList.length := by
  unfold Text.Utf8.encode
  induction text.toList with
  | nil => rfl
  | cons c cs ih =>
      have hsize := c.utf8Size_le_four
      rw [List.flatMap_cons, List.length_append, String.length_utf8EncodeChar, List.length_cons]
      omega

theorem utf8ByteSize_toString_lt (value : UInt32) :
    (toString value.toNat).utf8ByteSize < Backend.textLimit := by
  have hlimit : Backend.textLimit = 4096 := rfl
  have hvalue : value.toNat < 10 ^ 10 := by
    have hword := value.toNat_lt
    omega
  have hdigits : (toString value.toNat).toList.length ≤ 10 := by
    rw [String.length_toList, Nat.toString_eq_repr]
    exact (Nat.length_repr_le_iff (by omega)).mpr hvalue
  have hbytes := length_encode_le (toString value.toNat)
  rw [Text.Utf8.length_encode] at hbytes
  omega

theorem numberOf?_of_textOf {content : Bytes} {value : UInt32}
    (htext : textOf content = toString value.toNat) : numberOf? content = some value := by
  have hnumeral := Text.spells_toString value.toNat
  rw [numberOf?, htext, Text.trim_of_no_blank hnumeral.not_isBlank, Text.word32?_toString]

theorem numberOf?_encode (value : UInt32) :
    numberOf? (Text.Utf8.encode (toString value.toNat)) = some value :=
  numberOf?_of_textOf (textOf_encode
    (Nat.le_of_lt (utf8ByteSize_toString_lt value)) (Text.getLast?_toString_ne value.toNat))

/-- The line feed that ends a line is not part of its text. -/
theorem textOf_encode_line {text : String} (hsize : text.utf8ByteSize < Backend.textLimit)
    (hlast : text.toList.getLast? ≠ some '\n') : textOf (Text.Utf8.encode (text ++ "\n")) = text := by
  have hline : (text ++ "\n").utf8ByteSize ≤ Backend.textLimit := by
    rw [String.utf8ByteSize_append]
    exact hsize
  rw [textOf, decode_take_encode hline, Text.trimNewlines_append_newline hlast]

theorem numberOf?_encode_line (value : UInt32) :
    numberOf? (Text.Utf8.encode (toString value.toNat ++ "\n")) = some value :=
  numberOf?_of_textOf (textOf_encode_line (utf8ByteSize_toString_lt value)
    (Text.getLast?_toString_ne value.toNat))

end DaqBus.Attribute
