import Mathlib.Data.List.Infix
import SchemaScaffold.Proofs.Text.Searching

/-!
# Texts as bytes

The bytes of a text are those of its characters one after another, and they are decoded as the
text.

A text is cut between two offsets in its bytes if both lie between characters. What is found among
the bytes of a text is found among its characters, and capitals are put byte by byte, so that an
offset that is found in capitals cuts the text as it is written.
-/

namespace SchemaScaffold
namespace Text

/-- The bytes of the characters of a text, one after another. -/
def bytes (text : List Char) : List UInt8 :=
  text.flatMap String.utf8EncodeChar

@[simp] theorem bytes_nil : bytes [] = [] := rfl

theorem bytes_cons (c : Char) (rest : List Char) :
    bytes (c :: rest) = String.utf8EncodeChar c ++ bytes rest := rfl

@[simp] theorem bytes_append (left right : List Char) :
    bytes (left ++ right) = bytes left ++ bytes right :=
  List.flatMap_append

/-- The bytes of a text are decoded as the text. -/
theorem fromUTF8?_toUTF8 (text : String) : String.fromUTF8? text.toUTF8 = some text := by
  rw [String.fromUTF8?, String.toUTF8_eq_toByteArray, dif_pos text.isValidUTF8]
  rfl

theorem toList_loop (bytes : ByteArray) (index : Nat) (before : List UInt8) :
    ByteArray.toList.loop bytes index before = before.reverse ++ bytes.data.toList.drop index := by
  induction index, before using ByteArray.toList.loop.induct bytes with
  | case1 index before inside ih =>
    have behind : bytes.data.toList.drop index =
        bytes.get! index :: bytes.data.toList.drop (index + 1) := by
      rw [List.drop_eq_getElem_cons (by simpa using inside)]
      simp [ByteArray.get!, inside]
    rw [ByteArray.toList.loop, if_pos inside, ih, behind]
    simp
  | case2 index before outside =>
    rw [ByteArray.toList.loop, if_neg outside,
      List.drop_of_length_le (by simpa using outside), List.append_nil]

/-- The bytes of a text, character by character. -/
theorem toList_toUTF8 (text : List Char) :
    (String.ofList text).toUTF8.toList = bytes text := by
  rw [String.toUTF8_eq_toByteArray, String.toByteArray_ofList, ByteArray.toList, toList_loop]
  simp [List.utf8Encode, bytes]

theorem mod_eq_of_ofNat_eq {number value : Nat} {byte : UInt8} (same : UInt8.ofNat number = byte)
    (known : byte.toNat = value) : number % 256 = value := by
  rw [← known, ← same, UInt8.toNat_ofNat']

/-- No character begins with a byte that only marks of the byte order have. -/
theorem toNat_lt_of_utf8EncodeChar {c : Char} {byte : UInt8} {rest more : List UInt8}
    (same : String.utf8EncodeChar c ++ rest = byte :: more) : byte.toNat < 0xFE := by
  unfold String.utf8EncodeChar at same
  simp only at same
  split at same
  · rw [← (List.cons.inj same).1, UInt8.toNat_ofNat']
    omega
  · split at same
    · rw [← (List.cons.inj same).1, UInt8.toNat_ofNat']
      omega
    · split at same
      · rw [← (List.cons.inj same).1, UInt8.toNat_ofNat']
        omega
      · rw [← (List.cons.inj same).1, UInt8.toNat_ofNat']
        omega

/-- Three bytes are the mark of the byte order only where the character is. -/
theorem eq_mark_of_utf8EncodeChar {c : Char} {rest more : List UInt8}
    (same : String.utf8EncodeChar c ++ rest = 0xEF :: 0xBB :: 0xBF :: more) : c = '\uFEFF' := by
  unfold String.utf8EncodeChar at same
  simp only at same
  split at same
  · have first := @mod_eq_of_ofNat_eq _ 0xEF _ (List.cons.inj same).1 rfl
    omega
  · split at same
    · have first := @mod_eq_of_ofNat_eq _ 0xEF _ (List.cons.inj same).1 rfl
      omega
    · split at same
      · obtain ⟨first, same⟩ := List.cons.inj same
        obtain ⟨second, same⟩ := List.cons.inj same
        obtain ⟨third, -⟩ := List.cons.inj same
        have first := @mod_eq_of_ofNat_eq _ 0xEF _ first rfl
        have second := @mod_eq_of_ofNat_eq _ 0xBB _ second rfl
        have third := @mod_eq_of_ofNat_eq _ 0xBF _ third rfl
        refine Char.ext (UInt32.toNat_inj.1 ?_)
        show c.val.toNat = 0xFEFF
        omega
      · have first := @mod_eq_of_ofNat_eq _ 0xEF _ (List.cons.inj same).1 rfl
        omega

theorem toByteArray_bytes (text : List Char) : (bytes text).toByteArray = text.utf8Encode := rfl

theorem utf8ByteSize_eq (text : String) : text.utf8ByteSize = (bytes text.toList).length := by
  rw [← List.size_toByteArray, toByteArray_bytes, ← String.toByteArray_ofList,
    String.ofList_toList, String.size_toByteArray]

@[simp] theorem bytes_eq_nil_iff {text : List Char} : bytes text = [] ↔ text = [] := by
  cases text with
  | nil => simp
  | cons c rest => simp [bytes_cons]

/-- A text begins with another one if its bytes do. -/
theorem prefix_of_bytes_append {front text : List Char} {after : List UInt8}
    (whole : bytes front ++ after = bytes text) : front <+: text := by
  refine List.isPrefix_of_utf8Encode_append_eq_utf8Encode after.toByteArray ?_
  rw [← toByteArray_bytes, ← toByteArray_bytes, ← whole, List.toByteArray_append]

/-- The first byte of a text is the first one of a character. -/
theorem isUTF8FirstByte_of_bytes_eq {text : List Char} {byte : UInt8} {more : List UInt8}
    (shape : bytes text = byte :: more) : byte.IsUTF8FirstByte := by
  cases text with
  | nil => simp at shape
  | cons c rest =>
    obtain ⟨first, others, own⟩ := List.exists_cons_of_ne_nil (String.utf8EncodeChar_ne_nil (c := c))
    have begins := UInt8.isUTF8FirstByte_getElem_zero_utf8EncodeChar (c := c)
    rw [bytes_cons, own, List.cons_append] at shape
    simpa only [own, List.getElem_cons_zero, (List.cons.inj shape).1] using begins

/-- Where the first byte of a character stands, a character begins. -/
theorem exists_of_isUTF8FirstByte {text : List Char} {before after : List UInt8} {byte : UInt8}
    (first : byte.IsUTF8FirstByte) (whole : bytes text = before ++ byte :: after) :
    ∃ front back, text = front ++ back ∧ bytes front = before ∧ bytes back = byte :: after := by
  have valid : (⟨before.length⟩ : String.Pos.Raw).IsValid (String.ofList text) := by
    refine String.Pos.Raw.isValid_iff_isUTF8FirstByte.2 (.inr ⟨?_, ?_⟩)
    · rw [String.Pos.Raw.lt_iff, String.byteIdx_rawEndPos, utf8ByteSize_eq, String.toList_ofList,
        whole, List.length_append, List.length_cons]
      exact Nat.lt_add_of_pos_right (Nat.succ_pos after.length)
    · have here : (bytes text)[before.length]? = some byte := by simp [whole]
      obtain ⟨inside, here⟩ := List.getElem?_eq_some_iff.1 here
      simpa only [String.getUTF8Byte, String.toByteArray_ofList, ← toByteArray_bytes,
        List.getElem_toByteArray, here] using first
  obtain ⟨count, size⟩ := String.Pos.Raw.isValid_ofList.1 valid
  rw [utf8ByteSize_eq, String.toList_ofList] at size
  have split : bytes (text.take count) ++ bytes (text.drop count) = before ++ byte :: after := by
    rw [← bytes_append, List.take_append_drop, whole]
  obtain ⟨same, rest⟩ := List.append_inj split size.symm
  exact ⟨_, _, (List.take_append_drop count text).symm, same, rest⟩

/-- A text occurs in another one where its bytes occur. -/
theorem exists_of_bytes_eq {needle text : List Char} {before after : List UInt8}
    (nonempty : needle ≠ []) (whole : bytes text = before ++ (bytes needle ++ after)) :
    ∃ front back, text = front ++ (needle ++ back) ∧ bytes front = before := by
  obtain ⟨byte, more, shape⟩ := List.exists_cons_of_ne_nil (mt bytes_eq_nil_iff.1 nonempty)
  rw [shape, List.cons_append] at whole
  obtain ⟨front, back, rfl, isFront, isBack⟩ :=
    exists_of_isUTF8FirstByte (isUTF8FirstByte_of_bytes_eq shape) whole
  rw [← List.cons_append, ← shape] at isBack
  obtain ⟨back, rfl⟩ := prefix_of_bytes_append isBack.symm
  exact ⟨front, back, rfl, isFront⟩

/-- A text ends with another one exactly if its bytes do. -/
theorem isSuffixOf_bytes (ending text : List Char) :
    (bytes ending).isSuffixOf (bytes text) = ending.isSuffixOf text := by
  rw [Bool.eq_iff_iff, List.isSuffixOf_iff_suffix, List.isSuffixOf_iff_suffix]
  constructor
  · rintro ⟨before, whole⟩
    by_cases empty : ending = []
    · rw [empty]
      exact List.nil_suffix
    · have behind : bytes text = before ++ (bytes ending ++ []) := by
        rw [List.append_nil, whole]
      obtain ⟨front, back, rfl, rfl⟩ := exists_of_bytes_eq empty behind
      have nothing : back = [] := by simpa using whole
      exact ⟨front, by rw [nothing, List.append_nil]⟩
  · rintro ⟨front, rfl⟩
    exact ⟨bytes front, (bytes_append front ending).symm⟩

/-- A byte, or its capital if it is a letter of ASCII. -/
def upperByte (byte : UInt8) : UInt8 :=
  if 0x61 ≤ byte ∧ byte ≤ 0x7A then byte - 0x20 else byte

/-- Outside ASCII no byte of a character is one of ASCII. -/
theorem le_toNat_of_mem_utf8EncodeChar {c : Char} (other : 0x80 ≤ c.toNat) {byte : UInt8}
    (member : byte ∈ String.utf8EncodeChar c) : 0x80 ≤ byte.toNat := by
  have bound : ¬ c.val.toNat ≤ 0x7F := Nat.not_le.2 other
  simp only [String.utf8EncodeChar, bound, if_false] at member
  split at member
  · simp only [List.mem_cons, List.not_mem_nil, or_false] at member
    rcases member with rfl | rfl <;> rw [UInt8.toNat_ofNat'] <;> omega
  · split at member
    · simp only [List.mem_cons, List.not_mem_nil, or_false] at member
      rcases member with rfl | rfl | rfl <;> rw [UInt8.toNat_ofNat'] <;> omega
    · simp only [List.mem_cons, List.not_mem_nil, or_false] at member
      rcases member with rfl | rfl | rfl | rfl <;> rw [UInt8.toNat_ofNat'] <;> omega

/-- The bytes of a character become those of its capital. -/
theorem map_upperByte_utf8EncodeChar (c : Char) :
    (String.utf8EncodeChar c).map upperByte = String.utf8EncodeChar c.toUpper := by
  by_cases ascii : c.toNat < 0x80
  · have small : ∀ code < 0x80, (String.utf8EncodeChar (Char.ofNat code)).map upperByte =
        String.utf8EncodeChar (Char.ofNat code).toUpper := by decide
    simpa only [Char.ofNat_toNat] using small c.toNat ascii
  · have same : c.toUpper = c := dif_neg fun ⟨_, toZ⟩ => by
      have bound : c.toNat ≤ 122 := UInt32.le_iff_toNat_le.1 toZ
      omega
    have kept : ∀ byte ∈ String.utf8EncodeChar c, upperByte byte = byte := by
      intro byte member
      have high := le_toNat_of_mem_utf8EncodeChar (Nat.not_lt.1 ascii) member
      refine if_neg fun ⟨_, toZ⟩ => ?_
      have bound : byte.toNat ≤ 122 := UInt8.le_iff_toNat_le.1 toZ
      omega
    rw [same, List.map_congr_left kept, List.map_id']

/-- Every byte keeps its place when the ASCII letters of a text become capitals. -/
theorem bytes_asciiUpper (text : List Char) :
    bytes (asciiUpper text) = (bytes text).map upperByte := by
  simp only [bytes, asciiUpper, List.flatMap_map, List.map_flatMap, map_upperByte_utf8EncodeChar]

/-- With all letters of Unicode the places would change. -/
example : (bytes ['ı']).length = 2 ∧ (bytes (LetterCase.upper 'ı')).length = 1 := by decide

/-- The offset of the first occurrence among the bytes of a text. -/
def offsetOf? (needle text : List UInt8) : Option Nat :=
  text.tails.findIdx? needle.isPrefixOf

theorem offsetOf?_eq_zero {needle text : List UInt8} (start : needle <+: text) :
    offsetOf? needle text = some 0 := by
  have here : needle.isPrefixOf text = true := List.isPrefixOf_iff_prefix.2 start
  cases text <;> simp [offsetOf?, List.findIdx?_cons, here]

/-- Where nothing is found in front, the search goes on behind it. -/
theorem offsetOf?_append {needle front back : List UInt8}
    (apart : ∀ before after, front ++ back = before ++ (needle ++ after) →
      front.length ≤ before.length) :
    offsetOf? needle (front ++ back) = (offsetOf? needle back).map (· + front.length) := by
  induction front with
  | nil => simp
  | cons byte front ih =>
    have here : needle.isPrefixOf (byte :: (front ++ back)) = false := by
      rw [← Bool.not_eq_true, List.isPrefixOf_iff_prefix]
      rintro ⟨after, whole⟩
      simpa using apart [] after whole.symm
    have later : offsetOf? needle (front ++ back) =
        (offsetOf? needle back).map (· + front.length) := by
      refine ih fun before after whole => ?_
      simpa using apart (byte :: before) after (congrArg (byte :: ·) whole)
    rw [offsetOf?] at later
    rw [offsetOf?, List.cons_append, List.tails_cons, List.findIdx?_cons, here, later]
    simp [Function.comp_def, Nat.add_assoc]

/-- What is searched is found behind the bytes of the text in front of its first occurrence. -/
theorem offsetOf?_bytes {needle : List Char} (nonempty : needle ≠ []) (text : List Char) :
    offsetOf? (bytes needle) (bytes text) =
      (splitAtFirst needle text).map fun split => (bytes split.1).length := by
  induction text with
  | nil =>
    obtain ⟨byte, more, shape⟩ := List.exists_cons_of_ne_nil (mt bytes_eq_nil_iff.1 nonempty)
    simp [offsetOf?, splitAtFirst, nonempty, shape]
  | cons c rest ih =>
    rw [splitAtFirst]
    split
    · next here =>
      obtain ⟨back, whole⟩ := List.isPrefixOf_iff_prefix.1 here
      rw [offsetOf?_eq_zero ⟨bytes back, by rw [← whole, bytes_append]⟩]
      rfl
    · next apart =>
      rw [bytes_cons, offsetOf?_append, ih]
      · cases splitAtFirst needle rest <;> simp [bytes_cons, Nat.add_comm]
      -- No occurrence begins at the character or between two of its bytes.
      · intro before after whole
        obtain ⟨front, back, shape, rfl⟩ :=
          exists_of_bytes_eq nonempty (show bytes (c :: rest) = _ from whole)
        cases front with
        | nil => exact absurd (List.isPrefixOf_iff_prefix.2 ⟨back, shape.symm⟩) apart
        | cons d front =>
          obtain ⟨rfl, -⟩ := List.cons_eq_cons.1 shape
          simp [bytes_cons]

/-- Why there is no text between two offsets. -/
inductive CutFault where
  /-- The second offset is in front of the first. -/
  | reversed
  /-- An offset is behind the end of the text. -/
  | outside
  /-- An offset is between two bytes of a character. -/
  | withinCharacter
deriving DecidableEq, Repr

/-- The text between two offsets in bytes. -/
def cut (text : String) (first last : Nat) : Except CutFault String :=
  if last < first then .error .reversed
  else if text.utf8ByteSize < last then .error .outside
  else if boundaries : (⟨first⟩ : String.Pos.Raw).IsValid text ∧
      (⟨last⟩ : String.Pos.Raw).IsValid text then
    .ok (text.extract ⟨⟨first⟩, boundaries.1⟩ ⟨⟨last⟩, boundaries.2⟩)
  else .error .withinCharacter

/-- The text without its last `count` bytes. -/
def cutEnd (count : Nat) (text : String) : Except CutFault String :=
  if text.utf8ByteSize < count then .error .outside else cut text 0 (text.utf8ByteSize - count)

theorem extract_toByteArray (before part after : String) :
    (before ++ part ++ after).toByteArray.extract before.utf8ByteSize
      (before ++ part).utf8ByteSize = part.toByteArray := by
  rw [String.append_assoc, String.toByteArray_append, String.utf8ByteSize_append,
    ← Nat.add_zero before.utf8ByteSize, Nat.add_assoc,
    ByteArray.extract_append_size_add' String.size_toByteArray.symm, String.toByteArray_append,
    Nat.zero_add, ByteArray.extract_append_eq_left String.size_toByteArray.symm]

theorem cut_append (before part after : String) :
    cut (before ++ part ++ after) before.utf8ByteSize (before ++ part).utf8ByteSize =
      .ok part := by
  have first : (⟨before.utf8ByteSize⟩ : String.Pos.Raw).IsValid (before ++ part ++ after) :=
    String.Pos.Raw.isValid_iff_exists_append.2
      ⟨before, part ++ after, String.append_assoc, rfl⟩
  have last : (⟨(before ++ part).utf8ByteSize⟩ : String.Pos.Raw).IsValid
      (before ++ part ++ after) :=
    String.Pos.Raw.isValid_iff_exists_append.2 ⟨before ++ part, after, rfl, rfl⟩
  rw [cut, if_neg (by simp), if_neg (by simp), dif_pos ⟨first, last⟩]
  exact congrArg Except.ok (String.toByteArray_inj.1 (extract_toByteArray before part after))

/-- A part is cut out of a text exactly if it stands between the offsets. -/
theorem cut_eq_ok_iff {text part : String} {first last : Nat} :
    cut text first last = .ok part ↔ ∃ before after, text = before ++ part ++ after ∧
      first = before.utf8ByteSize ∧ last = (before ++ part).utf8ByteSize := by
  constructor
  · intro found
    have ordered : ¬ last < first := fun reversed => by simp [cut, reversed] at found
    have boundaries : (⟨first⟩ : String.Pos.Raw).IsValid text ∧
        (⟨last⟩ : String.Pos.Raw).IsValid text := by
      by_contra within
      rw [cut, if_neg ordered, dif_neg within] at found
      split at found <;> contradiction
    obtain ⟨front, after, rfl, isLast⟩ :=
      String.Pos.Raw.isValid_iff_exists_append.1 boundaries.2
    obtain rfl : last = front.utf8ByteSize := congrArg String.Pos.Raw.byteIdx isLast
    have inFront : (⟨first⟩ : String.Pos.Raw).IsValid front := by
      rcases String.Pos.Raw.isValid_append.1 boundaries.1 with inFront | ⟨behind, -⟩
      · exact inFront
      · refine String.Pos.Raw.isValid_of_eq_rawEndPos (String.Pos.Raw.ext ?_)
        exact Nat.le_antisymm (Nat.not_lt.1 ordered) (String.Pos.Raw.le_iff.1 behind)
    obtain ⟨before, middle, rfl, isFirst⟩ := String.Pos.Raw.isValid_iff_exists_append.1 inFront
    obtain rfl : first = before.utf8ByteSize := congrArg String.Pos.Raw.byteIdx isFirst
    rw [cut_append, Except.ok.injEq] at found
    exact ⟨before, after, by rw [found], rfl, by rw [found]⟩
  · rintro ⟨before, after, rfl, rfl, rfl⟩
    exact cut_append before part after

example : cut "aß" 1 2 = .error .withinCharacter ∧ cut "aß" 1 3 = .ok "ß" := by decide

section Characters

variable {text : String} {before part after : List Char}

theorem cut_of_toList_eq (whole : text.toList = before ++ (part ++ after)) :
    cut text (bytes before).length (bytes (before ++ part)).length = .ok (String.ofList part) := by
  refine cut_eq_ok_iff.2 ⟨String.ofList before, String.ofList after, ?_, ?_, ?_⟩
  · rw [← String.ofList_append, ← String.ofList_append, List.append_assoc, ← whole,
      String.ofList_toList]
  · rw [utf8ByteSize_eq, String.toList_ofList]
  · rw [← String.ofList_append, utf8ByteSize_eq, String.toList_ofList]

/-- An ending is cut off by the number of its bytes. -/
theorem cutEnd_eq (whole : text.toList = before ++ after) :
    cutEnd (bytes after).length text = .ok (String.ofList before) := by
  have size : text.utf8ByteSize = (bytes before).length + (bytes after).length := by
    rw [utf8ByteSize_eq, whole, bytes_append, List.length_append]
  rw [cutEnd, if_neg (by omega), size, Nat.add_sub_cancel]
  exact cut_of_toList_eq (show text.toList = [] ++ (before ++ after) from whole)

variable {needle found : List Char}

/-- A text is cut in front of what is found in it. -/
theorem cut_before (split : splitAtFirst needle text.toList = some (before, found)) :
    cut text 0 (bytes before).length = .ok (String.ofList before) :=
  cut_of_toList_eq (show text.toList = [] ++ (before ++ found) from (splitAtFirst_eq_some split).1)

/-- A text is cut, as it is written, behind what is found in its capitals. -/
theorem cut_behind (split : splitAtFirst needle (asciiUpper text.toList) = some (before, found)) :
    cut text ((bytes before).length + (bytes needle).length) text.utf8ByteSize =
      .ok (String.ofList (text.toList.drop (before.length + needle.length))) := by
  obtain ⟨front, keyword, rest, whole, rfl, rfl, behind⟩ := exists_of_splitAtFirst_asciiUpper split
  have written : text.toList = (front ++ keyword) ++ (rest ++ []) := by
    rw [whole, List.append_nil, List.append_assoc]
  rw [behind, utf8ByteSize_eq, bytes_asciiUpper, bytes_asciiUpper, List.length_map, List.length_map,
    ← List.length_append, ← bytes_append, whole, ← List.append_assoc]
  exact cut_of_toList_eq written

end Characters

end Text
end SchemaScaffold
