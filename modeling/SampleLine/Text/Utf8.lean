/-
The UTF-8 form of a text.  Reading bytes back succeeds exactly on the bytes
that writing produces, and then gives the text that was written.
-/
import SampleLine.Text.Basic

namespace SampleLine

namespace Text

def utf8 (text : Text) : List UInt8 :=
  text.flatMap String.utf8EncodeChar

def byteSize (text : Text) : Nat := (utf8 text).length

/-- The text whose UTF-8 form the bytes are, if there is one. -/
def ofUtf8? (bytes : List UInt8) : Option Text :=
  (String.fromUTF8? bytes.toByteArray).map String.toList

@[simp] theorem utf8_nil : utf8 [] = [] := rfl

@[simp] theorem utf8_cons (c : Char) (text : Text) :
    utf8 (c :: text) = String.utf8EncodeChar c ++ utf8 text := by
  simp [utf8]

@[simp] theorem utf8_append (first second : Text) :
    utf8 (first ++ second) = utf8 first ++ utf8 second := by
  simp [utf8]

theorem utf8_length (text : Text) : (utf8 text).length = byteSize text := rfl

@[simp] theorem byteSize_nil : byteSize [] = 0 := rfl

@[simp] theorem byteSize_cons (c : Char) (text : Text) :
    byteSize (c :: text) = c.utf8Size + byteSize text := by
  simp [byteSize]

@[simp] theorem byteSize_append (first second : Text) :
    byteSize (first ++ second) = byteSize first + byteSize second := by
  simp [byteSize]

theorem ofUtf8?_utf8 (text : Text) : ofUtf8? (utf8 text) = some text := by
  have valid : (utf8 text).toByteArray.IsValidUTF8 := ⟨text, rfl⟩
  rw [ofUtf8?, String.fromUTF8?, dif_pos valid, Option.map_some]
  exact congrArg some (String.toList_ofList (l := text))

theorem ofUtf8?_eq_some_iff (bytes : List UInt8) (text : Text) :
    ofUtf8? bytes = some text ↔ bytes = utf8 text := by
  constructor
  · intro found
    obtain ⟨string, hstring, rfl⟩ := Option.map_eq_some_iff.1 found
    rw [String.fromUTF8?] at hstring
    split at hstring
    · cases hstring
      have same := String.utf8Encode_toList (b := String.fromUTF8 _ ‹_›)
      have written : (utf8 (String.fromUTF8 bytes.toByteArray _).toList).toByteArray =
          bytes.toByteArray := same
      have read := congrArg (fun array => array.data.toList) written
      simpa using read.symm
    · cases hstring
  · rintro rfl
    exact ofUtf8?_utf8 text

theorem ten_mem_utf8EncodeChar_iff (c : Char) : 10 ∈ String.utf8EncodeChar c ↔ c = '\n' := by
  have feed : '\n'.val.toNat = 10 := rfl
  have ten : (10 : UInt8).toNat = 10 := rfl
  rw [← Char.val_inj, ← UInt32.toNat_inj, feed]
  fun_cases String.utf8EncodeChar c with
  | _ v =>
      simp only [List.mem_cons, List.not_mem_nil, or_false, ← UInt8.toNat_inj,
        UInt8.toNat_ofNat', ten]
      omega

/-- The byte of a line feed stands for nothing else. -/
theorem ten_mem_utf8_iff (text : Text) : 10 ∈ utf8 text ↔ '\n' ∈ text := by
  simp only [utf8, List.mem_flatMap, ten_mem_utf8EncodeChar_iff, exists_eq_right]

example : ofUtf8? [0xE2, 0x80, 0x91] = some ['\u2011'] := by
  exact ofUtf8?_utf8 ['\u2011']

end Text

end SampleLine
