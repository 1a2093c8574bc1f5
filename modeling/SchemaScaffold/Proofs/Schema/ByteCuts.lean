import SchemaScaffold.Proofs.Schema.Enumerations
import SchemaScaffold.Proofs.Text.Bytes
import SchemaScaffold.Schema.EntityNames

/-!
# Names and samples cut by bytes

The singular of a noun and the entries of an enumeration, cut out of their texts at offsets in
bytes. Whatever the characters of a text, no cut falls outside the text or within a character, and
what is cut out is the singular and the sample. The sample is a part of the definition as it is
written, although the list is searched in capitals.
-/

namespace SchemaScaffold

open Text

namespace EntityNames

/-- Singular of a noun, by the bytes at its end. What made the plural is cut off as a number of
bytes. -/
def singularizeByBytes (noun : String) : Except CutFault String :=
  let endsWith (ending : String) : Bool := (bytes ending.toList).isSuffixOf (bytes noun.toList)
  if endsWith "ies" then (cutEnd 3 noun).map (· ++ "y")
  else if endsWith "ses" then cutEnd 2 noun
  else if endsWith "s" && !endsWith "ss" then cutEnd 1 noun
  else .ok noun

/-- To cut off the bytes of an ending is to take its characters away. -/
theorem cutEnd_eq_take {noun : String} {stem ending : List Char}
    (whole : stem ++ ending = noun.toList) :
    cutEnd (bytes ending).length noun =
      .ok (String.ofList (noun.toList.take (noun.toList.length - ending.length))) := by
  rw [cutEnd_eq whole.symm, ← whole, List.length_append, Nat.add_sub_cancel, List.take_left]

theorem singularizeByBytes_eq (noun : String) :
    singularizeByBytes noun = .ok (singularize noun) := by
  simp only [singularizeByBytes, isSuffixOf_bytes, singularize, singularChars]
  split
  · next plural =>
    obtain ⟨stem, whole⟩ := List.isSuffixOf_iff_suffix.1 plural
    have stemOnly : cutEnd 3 noun = .ok _ := cutEnd_eq_take whole
    rw [stemOnly, String.ofList_append]
    rfl
  · split
    -- Of the three letters that tell this plural, the first one is kept.
    · next plural =>
      obtain ⟨stem, whole⟩ := List.isSuffixOf_iff_suffix.1 plural
      have kept : (stem ++ ['s']) ++ ['e', 's'] = noun.toList := by simpa using whole
      exact cutEnd_eq_take kept
    · split
      · next plural =>
        obtain ⟨stem, whole⟩ := List.isSuffixOf_iff_suffix.1 (Bool.and_eq_true_iff.1 plural).1
        exact cutEnd_eq_take whole
      · rw [String.ofList_toList]

end EntityNames

namespace TypeRule

/-- What stands between the first `ENUM(` and the next closing parenthesis. The first offset is
found in capitals, and cuts the definition as it is written. -/
def cutEntries (definition : String) : Except CutFault (Option String) :=
  match offsetOf? (bytes "ENUM(".toList) ((bytes definition.toList).map upperByte) with
  | none => .ok none
  | some start => do
    let inner ← cut definition (start + "ENUM(".utf8ByteSize) definition.utf8ByteSize
    match offsetOf? (bytes [')']) (bytes inner.toList) with
    | none => return none
    | some stop => return some (← cut inner 0 stop)

theorem cutEntries_eq (definition : String) :
    cutEntries definition = .ok ((enumEntries? definition.toList).map String.ofList) := by
  rw [cutEntries, ← bytes_asciiUpper, offsetOf?_bytes (by decide), enumEntries?]
  cases opening : splitAtFirst "ENUM(".toList (asciiUpper definition.toList) with
  | none => rfl
  | some split =>
    have size : "ENUM(".toList.length = 5 := rfl
    have behind := cut_behind opening
    rw [size] at behind
    simp only [Option.map_some, Option.bind_some, utf8ByteSize_eq "ENUM(", behind]
    generalize definition.toList.drop (split.1.length + 5) = inner
    simp only [bind, Except.bind, String.toList_ofList, offsetOf?_bytes (List.cons_ne_nil ')' [])]
    cases closing : splitAtFirst [')'] inner with
    | none => rfl
    | some split =>
      have entries : cut (String.ofList inner) 0 (bytes split.1).length =
          .ok (String.ofList split.1) := cut_before (by rw [String.toList_ofList, closing])
      simp only [Option.map_some, entries]
      rfl

/-- The sample of an enumeration, with its entries cut out by bytes. -/
def enumSampleByBytes (definition : String) : Except CutFault Sample :=
  (cutEntries definition).map fun
    | some entries =>
      if entries.isEmpty then .text "value" else .text (String.ofList (firstOf entries.toList))
    | none => .text "value"

theorem enumSampleByBytes_eq (definition : String) :
    enumSampleByBytes definition = .ok (enumSample definition) := by
  rw [enumSampleByBytes, cutEntries_eq, enumSample, firstEnumEntry_eq_map]
  cases enumEntries? definition.toList with
  | none => rfl
  | some entries =>
    cases entries with
    | nil => rfl
    | cons c rest => simp [Except.map, Option.filter]

end TypeRule

/-- No cut of a name or of a definition falls outside the text or within a character, and the
cuts make the singular and the sample. Where a definition encloses entries, the sample is a part of
them, in the letters of the definition; where it encloses none, it is the word for values. -/
theorem cuts_stay_between_characters (text : String) :
    EntityNames.singularizeByBytes text = .ok (EntityNames.singularize text) ∧
    TypeRule.enumSampleByBytes text = .ok (TypeRule.enumSample text) ∧
    (∀ entries, TypeRule.Encloses text.toList entries → entries ≠ [] →
      ∃ value, TypeRule.enumSample text = .text value ∧ value.toList <:+: entries ∧
        entries <:+: text.toList) ∧
    ((∀ entries, TypeRule.Encloses text.toList entries → entries = []) →
      TypeRule.enumSample text = .text "value") := by
  refine ⟨EntityNames.singularizeByBytes_eq text, TypeRule.enumSampleByBytes_eq text,
    fun entries encloses nonempty => ?_, fun empty => ?_⟩
  · refine ⟨_, encloses.enumSample_eq nonempty, ?_, encloses.isInfix⟩
    rw [String.toList_ofList]
    exact TypeRule.isInfix_firstOf entries
  · rw [TypeRule.enumSample, TypeRule.firstEnumEntry_eq_none_iff.2 empty]

/-- Letters around the list and in it have capitals of other sizes. -/
theorem accented_text_is_cut :
    TypeRule.Encloses "ŉı Enum('Maßstab','ẞ') ﬁ".toList "'Maßstab','ẞ'".toList ∧
      TypeRule.enumSampleByBytes "ŉı Enum('Maßstab','ẞ') ﬁ" = .ok (.text "Maßstab") ∧
      ∃ value, TypeRule.enumSample "ŉı Enum('Maßstab','ẞ') ﬁ" = .text value ∧
        value.toList <:+: "'Maßstab','ẞ'".toList := by
  have encloses : TypeRule.Encloses "ŉı Enum('Maßstab','ẞ') ﬁ".toList "'Maßstab','ẞ'".toList :=
    ⟨"ŉı ".toList, "Enum(".toList, " ﬁ".toList, by decide, by decide, ⟨by decide, by decide⟩,
      by decide⟩
  obtain ⟨-, sample, part, -⟩ := cuts_stay_between_characters "ŉı Enum('Maßstab','ẞ') ﬁ"
  obtain ⟨value, isValue, inside, -⟩ := part _ encloses (by decide)
  exact ⟨encloses, by rw [sample]; decide, value, isValue, inside⟩

end SchemaScaffold
