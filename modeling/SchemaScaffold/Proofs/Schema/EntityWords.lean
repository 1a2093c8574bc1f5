import SchemaScaffold.Proofs.Schema.EntityNames
import SchemaScaffold.Proofs.Text.Identifier
import SchemaScaffold.Proofs.Text.LetterCase
import SchemaScaffold.Proofs.Text.Pieces

/-!
# Words of entity names

A name in pascal case is made word by word: underscores only part the words, and a word that is
capitalized stays as it is. The laws hold of all texts, with all letters that have a capital.

The name of an entity in code begins with a digit exactly if the name of the table does behind its
underscores: the ending of the plural has no digits, underscores are left out, and letters stay
letters in another case.
-/

namespace SchemaScaffold

open Text (BeginsWithDigit)
open Sql (isNameChar)

namespace Text

theorem capitalize_append {word : List Char} (nonempty : word ≠ []) (more : List Char) :
    capitalize (word ++ more) = capitalize word ++ more := by
  obtain ⟨c, rest, rfl⟩ := List.exists_cons_of_ne_nil nonempty
  simp [capitalize]

@[simp] theorem capitalize_capitalize (word : List Char) :
    capitalize (capitalize word) = capitalize word := by
  cases word with
  | nil => rfl
  | cons c rest =>
    obtain ⟨first, others, shape⟩ := List.exists_cons_of_ne_nil (LetterCase.upper_ne_nil c)
    have kept : LetterCase.upper first = [first] :=
      LetterCase.upper_of_mem_upper (c := c) (by simp [shape])
    simp [capitalize, shape, kept]

/-- Only the first word decides how words that are run together begin. -/
theorem capitalize_flatMap_capitalize (words : List (List Char)) :
    capitalize (words.flatMap capitalize) = words.flatMap capitalize := by
  induction words with
  | nil => rfl
  | cons word rest ih =>
    rw [List.flatMap_cons]
    by_cases given : capitalize word = []
    · rwa [given, List.nil_append]
    · rw [capitalize_append given, capitalize_capitalize]

theorem underscore_not_mem_capitalize {word : List Char} (free : '_' ∉ word) :
    '_' ∉ capitalize word := by
  cases word with
  | nil => exact free
  | cons c rest =>
    rw [List.mem_cons, not_or] at free
    rw [capitalize, List.mem_append, not_or]
    exact ⟨fun member => free.1 (LetterCase.eq_underscore_of_mem_upper member).symm, free.2⟩

end Text

namespace EntityNames

open Text

/-- An underscore between two texts parts their words. -/
theorem pascalChars_append (left right : List Char) :
    pascalChars (left ++ '_' :: right) = pascalChars left ++ pascalChars right := by
  rw [pascalChars, splitOn_append_separator, List.flatMap_append]
  rfl

theorem pascalChars_underscore (rest : List Char) :
    pascalChars ('_' :: rest) = pascalChars rest := by
  simp [pascalChars, Text.splitOn, Text.capitalize]

/-- The first word begins the name. -/
theorem exists_pascalChars_cons {c : Char} (other : c ≠ '_') (rest : List Char) :
    ∃ more, pascalChars (c :: rest) = Text.LetterCase.upper c ++ more := by
  obtain ⟨piece, pieces, split⟩ :=
    List.exists_cons_of_ne_nil (Text.splitOn_ne_nil '_' rest)
  refine ⟨piece ++ pieces.flatMap Text.capitalize, ?_⟩
  simp [pascalChars, Text.splitOn, other, split, Text.capitalize]

theorem underscore_not_mem_pascalChars (text : List Char) : '_' ∉ pascalChars text := by
  intro member
  obtain ⟨word, isWord, inside⟩ := List.mem_flatMap.1 member
  exact underscore_not_mem_capitalize (not_mem_of_mem_splitOn isWord) inside

/-- A text without underscores is one word. -/
theorem pascalChars_of_not_mem {text : List Char} (free : '_' ∉ text) :
    pascalChars text = capitalize text := by
  simp [pascalChars, splitOn_of_not_mem free]

@[simp] theorem pascalChars_pascalChars (text : List Char) :
    pascalChars (pascalChars text) = pascalChars text := by
  rw [pascalChars_of_not_mem (underscore_not_mem_pascalChars text)]
  exact capitalize_flatMap_capitalize (splitOn '_' text)

theorem camelChars_pascalChars (text : List Char) :
    camelChars (pascalChars text) = camelChars text := by
  rw [camelChars, pascalChars_pascalChars, camelChars]

/-- Nothing is left of a text without words. -/
theorem pascalChars_eq_nil_iff {text : List Char} :
    pascalChars text = [] ↔ ∀ c ∈ text, c = '_' := by
  induction text with
  | nil => simp
  | cons c rest ih =>
    by_cases under : c = '_'
    · rw [under, pascalChars_underscore, ih]
      simp
    · obtain ⟨more, shape⟩ := exists_pascalChars_cons under rest
      simp [shape, LetterCase.upper_ne_nil, under]

/-- A text in pascal case is that of the parts around an underscore, one behind the other. It has no
underscores, it is in pascal case already, and in camel case it is the same as the text. It is empty
exactly if the text is nothing but underscores. -/
theorem words_are_run_together (left right text : String) :
    toPascalCase (left ++ "_" ++ right) = toPascalCase left ++ toPascalCase right ∧
      '_' ∉ (toPascalCase text).toList ∧
      toPascalCase (toPascalCase text) = toPascalCase text ∧
      toCamelCase (toPascalCase text) = toCamelCase text ∧
      (toPascalCase text = "" ↔ ∃ count, text.toList = List.replicate count '_') := by
  have parted : (left ++ "_" ++ right).toList = left.toList ++ '_' :: right.toList := by simp
  refine ⟨?_, ?_, ?_, ?_, ?_⟩
  · rw [toPascalCase, parted, pascalChars_append, String.ofList_append]
    rfl
  · rw [toPascalCase, String.toList_ofList]
    exact underscore_not_mem_pascalChars text.toList
  · simp only [toPascalCase, String.toList_ofList, pascalChars_pascalChars]
  · simp only [toCamelCase, toPascalCase, String.toList_ofList, camelChars_pascalChars]
  · rw [toPascalCase, String.ofList_eq_empty_iff, pascalChars_eq_nil_iff]
    constructor
    · intro bare
      exact ⟨text.toList.length, List.eq_replicate_iff.2 ⟨rfl, bare⟩⟩
    · rintro ⟨count, shape⟩ c member
      rw [shape] at member
      exact List.eq_of_mem_replicate member

end EntityNames

/-- A text from its first character on that is no underscore. -/
def behindUnderscores (text : List Char) : List Char :=
  text.dropWhile (· == '_')

namespace Text

/-- The first letter of a word in upper and then in lower case is a digit if it was one. -/
theorem exists_lower_upper {c : Char} (named : isNameChar c = true) :
    ∃ capital small, LetterCase.upper c = [capital] ∧ LetterCase.lower capital = [small] ∧
      small.isDigit = c.isDigit := by
  have cased := forall_nameChar (fun c => (LetterCase.upper c).length = 1 ∧
      (LetterCase.upper c).all fun capital => (LetterCase.lower capital).length = 1 ∧
        (LetterCase.lower capital).all (·.isDigit = c.isDigit))
    (by decide) (by decide) (by decide) c named
  obtain ⟨capital, upper⟩ := List.length_eq_one_iff.1 cased.1
  have behind := cased.2
  simp only [upper, List.all_cons, List.all_nil, Bool.and_true, decide_eq_true_eq] at behind
  obtain ⟨small, lower⟩ := List.length_eq_one_iff.1 behind.1
  exact ⟨capital, small, upper, lower, by simpa [lower] using behind.2⟩

end Text

namespace EntityNames

/-- A name in camel case begins with a digit if the words do. -/
theorem beginsWithDigit_camelChars {text : List Char} (named : IsNameText text) :
    BeginsWithDigit (camelChars text) ↔ BeginsWithDigit (behindUnderscores text) := by
  induction text with
  | nil => exact Iff.rfl
  | cons c rest ih =>
    have restNamed : IsNameText rest := named.of_subset (List.subset_cons_self c rest)
    by_cases under : c = '_'
    · subst under
      rw [camelChars, pascalChars_underscore, ← camelChars, ih restNamed]
      rfl
    · obtain ⟨capital, small, upper, lower, same⟩ :=
        Text.exists_lower_upper (named c List.mem_cons_self)
      obtain ⟨more, shape⟩ := exists_pascalChars_cons under rest
      have visible : behindUnderscores (c :: rest) = c :: rest := by
        simp [behindUnderscores, under]
      rw [camelChars, shape, upper, List.singleton_append, Text.uncapitalize, lower, visible,
        List.singleton_append, Text.beginsWithDigit_cons, Text.beginsWithDigit_cons, same]

/-- Behind underscores, an ending without digits in front does not count. -/
theorem beginsWithDigit_append {ending : List Char}
    (plain : ¬ BeginsWithDigit (behindUnderscores ending)) (stem : List Char) :
    BeginsWithDigit (behindUnderscores (stem ++ ending)) ↔
      BeginsWithDigit (behindUnderscores stem) := by
  induction stem with
  | nil => exact iff_of_false plain (by decide)
  | cons c rest ih =>
    by_cases under : c = '_'
    · simpa [behindUnderscores, under] using ih
    · simp [behindUnderscores, under]

/-- The singular of a noun begins with a digit if the noun does. -/
theorem beginsWithDigit_singularChars (noun : List Char) :
    BeginsWithDigit (behindUnderscores (singularChars noun)) ↔
      BeginsWithDigit (behindUnderscores noun) := by
  have cut {suffix : String} (ends : suffix.toList.isSuffixOf noun = true) :
      ∃ stem, noun = stem ++ suffix.toList := by
    obtain ⟨stem, shape⟩ := List.isSuffixOf_iff_suffix.1 ends
    exact ⟨stem, shape.symm⟩
  unfold singularChars
  split
  · next ends =>
    obtain ⟨stem, rfl⟩ := cut ends
    have kept : (stem ++ "ies".toList).take ((stem ++ "ies".toList).length - 3) = stem := by simp
    rw [kept, beginsWithDigit_append (by decide), beginsWithDigit_append (by decide)]
  · split
    · next ends =>
      obtain ⟨stem, rfl⟩ := cut ends
      have whole : stem ++ "ses".toList = (stem ++ ['s']) ++ ['e', 's'] := by simp
      have kept : (stem ++ "ses".toList).take ((stem ++ "ses".toList).length - 2) =
          stem ++ ['s'] := by
        rw [whole]
        exact List.take_left' (by simp)
      rw [kept, beginsWithDigit_append (by decide), beginsWithDigit_append (by decide)]
    · split
      · next ends =>
        obtain ⟨stem, rfl⟩ := cut (Bool.and_eq_true_iff.1 ends).1
        have kept : (stem ++ "s".toList).take ((stem ++ "s".toList).length - 1) = stem := by simp
        rw [kept, beginsWithDigit_append (by decide)]
      · exact Iff.rfl

/-- The name of an entity in code begins with a digit if that of its table does, but for
underscores. -/
theorem beginsWithDigit_camel {table : String} (named : IsNameText table.toList) :
    BeginsWithDigit (ofTable table).camel.toList ↔
      BeginsWithDigit (behindUnderscores table.toList) := by
  simp only [ofTable, toCamelCase, singularize, String.toList_ofList]
  rw [beginsWithDigit_camelChars (isNameText_singularChars named),
    beginsWithDigit_singularChars]

end EntityNames
end SchemaScaffold
