import SchemaScaffold.Artifact.Template
import SchemaScaffold.Proofs.Schema.EntityNames
import SchemaScaffold.Proofs.Text.Replacing

/-!
# Rendering one token

A template with one token in it becomes the text around the token with the token's value in its
place. Keys have no braces, so that no token is taken for another one.
-/

namespace SchemaScaffold
namespace Template

open Text

/-- A template without opening braces has no tokens. -/
theorem renderChars_of_not_mem {template : List Char} (free : '\x7b' ∉ template)
    (tokens : List (String × String)) : renderChars tokens template = template := by
  induction tokens with
  | nil => rfl
  | cons head rest ih =>
    obtain ⟨key, value⟩ := head
    have shape : token key = '\x7b' :: ('\x7b' :: key.toList ++ ['\x7d', '\x7d']) := rfl
    rw [renderChars_cons, shape, replaceAll_of_not_mem free, ih]

/-- A token is exchanged for its value in a text that has no other one. -/
theorem replaceAll_token (key : String) (value : List Char) {front back : List Char}
    (before : '\x7b' ∉ front) (behind : '\x7b' ∉ back) :
    replaceAll (token key) value (front ++ (token key ++ back)) = front ++ (value ++ back) := by
  have shape : token key = '\x7b' :: ('\x7b' :: key.toList ++ ['\x7d', '\x7d']) := rfl
  rw [shape, replaceAll_append before, ← shape, replaceAll_needle (by simp [shape]), shape,
    replaceAll_of_not_mem behind]

/-- Opening and closing braces. -/
def isBrace (c : Char) : Bool :=
  c == '\x7b' || c == '\x7d'

/-- A text without braces. -/
def IsBraceFree (text : List Char) : Prop :=
  ∀ c ∈ text, isBrace c = false

instance (text : List Char) : Decidable (IsBraceFree text) :=
  decidable_of_iff ((text.all fun c => !isBrace c) = true) (by simp [IsBraceFree])

/-- Two keys in front of closing braces are told apart. -/
theorem eq_of_prefix_closed {key other : List Char} (keyFree : IsBraceFree key)
    (otherFree : IsBraceFree other) {back : List Char}
    (found : key ++ ['\x7d', '\x7d'] <+: other ++ '\x7d' :: back) : key = other := by
  have upToBrace {text : List Char} (free : IsBraceFree text) (more : List Char) :
      (text ++ '\x7d' :: more).takeWhile (fun c => !isBrace c) = text := by
    rw [List.takeWhile_append_of_pos (by simpa [IsBraceFree] using free)]
    simp [isBrace]
  obtain ⟨rest, shape⟩ := found
  rw [List.append_assoc, List.cons_append] at shape
  rw [← upToBrace keyFree, shape, upToBrace otherFree]

/-- The token of another key is passed over. -/
theorem replaceAll_token_append {key other : String} (apart : key ≠ other)
    (keyFree : IsBraceFree key.toList) (otherFree : IsBraceFree other.toList)
    (value back : List Char) :
    replaceAll (token key) value (token other ++ back) =
      token other ++ replaceAll (token key) value back := by
  have needle : token key = '\x7b' :: '\x7b' :: (key.toList ++ ['\x7d', '\x7d']) := rfl
  have passed : token other ++ back =
      '\x7b' :: '\x7b' :: (other.toList ++ ['\x7d', '\x7d'] ++ back) := by simp [token]
  have noOpening : '\x7b' ∉ other.toList ++ ['\x7d', '\x7d'] := by
    have : '\x7b' ∉ other.toList := fun member => absurd (otherFree _ member) (by decide)
    simp [this]
  -- The needle begins with two braces: where the token begins the keys differ, and from its second
  -- brace on there are no two opening ones.
  have first : ¬ token key <+: '\x7b' :: '\x7b' :: (other.toList ++ ['\x7d', '\x7d'] ++ back) := by
    rw [needle, List.cons_prefix_cons, List.cons_prefix_cons]
    rintro ⟨-, -, found⟩
    rw [List.append_assoc] at found
    exact apart (String.toList_inj.1 (eq_of_prefix_closed keyFree otherFree found))
  have second : ¬ token key <+: '\x7b' :: (other.toList ++ ['\x7d', '\x7d'] ++ back) := by
    rw [needle, List.cons_prefix_cons]
    rintro ⟨-, found⟩
    obtain ⟨c, rest, shape⟩ : ∃ c rest, other.toList ++ ['\x7d', '\x7d'] = c :: rest :=
      List.exists_cons_of_ne_nil (by simp)
    rw [shape, List.cons_append, List.cons_prefix_cons] at found
    exact noOpening (shape ▸ found.1 ▸ List.mem_cons_self)
  rw [passed, replaceAll_cons_of_apart first, replaceAll_cons_of_apart second, needle,
    replaceAll_append noOpening]
  simp [token]

/-- The token of another key stays in a text without other braces. -/
theorem replaceAll_token_of_ne {key other : String} (apart : key ≠ other)
    (keyFree : IsBraceFree key.toList) (otherFree : IsBraceFree other.toList)
    (value : List Char) {front back : List Char} (before : '\x7b' ∉ front)
    (behind : '\x7b' ∉ back) :
    replaceAll (token key) value (front ++ (token other ++ back)) =
      front ++ (token other ++ back) := by
  have shape : token key = '\x7b' :: ('\x7b' :: key.toList ++ ['\x7d', '\x7d']) := rfl
  rw [shape, replaceAll_append before, ← shape, replaceAll_token_append apart keyFree otherFree,
    shape, replaceAll_of_not_mem behind]

/-- The value of a listed key comes in place of its token in a text that has no other one. -/
theorem renderChars_token {tokens : List (String × String)} {key value : String}
    (keys : ∀ pair ∈ tokens, IsBraceFree pair.1.toList) (keyFree : IsBraceFree key.toList)
    (listed : tokens.lookup key = some value) {front back : List Char} (before : '\x7b' ∉ front)
    (behind : '\x7b' ∉ back) (inside : '\x7b' ∉ value.toList) :
    renderChars tokens (front ++ (token key ++ back)) = front ++ (value.toList ++ back) := by
  induction tokens with
  | nil => simp at listed
  | cons head rest ih =>
    obtain ⟨first, own⟩ := head
    obtain ⟨firstFree, others⟩ := List.forall_mem_cons.1 keys
    rw [renderChars_cons]
    by_cases same : key = first
    · obtain rfl : own = value := by simpa [List.lookup_cons, same] using listed
      rw [← same, replaceAll_token key own.toList before behind]
      exact renderChars_of_not_mem (by simp [before, behind, inside]) rest
    · have apart : (key == first) = false := beq_eq_false_iff_ne.2 same
      rw [List.lookup_cons, apart] at listed
      rw [replaceAll_token_of_ne (Ne.symm same) firstFree keyFree own.toList before behind]
      exact ih others listed

section Entity

variable (names : EntityNames) {front back : List Char} (before : '\x7b' ∉ front)
  (behind : '\x7b' ∉ back)

theorem isBraceFree_of_mem_entityTokens : ∀ pair ∈ entityTokens names,
    IsBraceFree pair.1.toList := by
  simp only [entityTokens, List.forall_mem_cons]
  exact ⟨by decide, by decide, by decide, by simp⟩

include before behind

/-- The small name of an entity comes in place of its token. -/
theorem renderChars_entity (inside : '\x7b' ∉ names.camel.toList) :
    renderChars (entityTokens names) (front ++ (token "entity" ++ back)) =
      front ++ (names.camel.toList ++ back) :=
  renderChars_token (isBraceFree_of_mem_entityTokens names) (by decide)
    (by simp [entityTokens, List.lookup_cons]) before behind inside

/-- The capitalized name of an entity comes in place of its token. -/
theorem renderChars_pascal (inside : '\x7b' ∉ names.pascal.toList) :
    renderChars (entityTokens names) (front ++ (token "Entity" ++ back)) =
      front ++ (names.pascal.toList ++ back) :=
  renderChars_token (isBraceFree_of_mem_entityTokens names) (by decide)
    (by simp [entityTokens]) before behind inside

/-- The name of a table comes in place of its token. -/
theorem renderChars_table (inside : '\x7b' ∉ names.table.toList) :
    renderChars (entityTokens names) (front ++ (token "table" ++ back)) =
      front ++ (names.table.toList ++ back) :=
  renderChars_token (isBraceFree_of_mem_entityTokens names) (by decide)
    (by simp [entityTokens, List.lookup_cons]) before behind inside

end Entity

/-- Rendering works on the pieces of a template, if neither tokens nor values have a separator. -/
theorem splitOn_renderChars {separator : Char} {tokens : List (String × String)}
    (foreign : ∀ pair ∈ tokens, separator ∉ token pair.1)
    (absent : ∀ pair ∈ tokens, separator ∉ pair.2.toList) (template : List Char) :
    splitOn separator (renderChars tokens template) =
      (splitOn separator template).map (renderChars tokens) := by
  induction tokens generalizing template with
  | nil => exact (List.map_id _).symm
  | cons head rest ih =>
    obtain ⟨key, value⟩ := head
    obtain ⟨foreignHere, foreignRest⟩ := List.forall_mem_cons.1 foreign
    obtain ⟨absentHere, absentRest⟩ := List.forall_mem_cons.1 absent
    rw [renderChars_cons, ih foreignRest absentRest,
      splitOn_replaceAll (by simp [token]) foreignHere absentHere, List.map_map]
    rfl

/-- Neither the tokens of a table's templates nor their values have a character that is no brace and
stands in no name, so that rendering works on the pieces between such characters. -/
theorem splitOn_renderChars_entityTokens {table : String} (named : IsNameText table.toList)
    {separator : Char} (other : Sql.isNameChar separator = false) (noOpening : separator ≠ '\x7b')
    (noClosing : separator ≠ '\x7d') (template : List Char) :
    splitOn separator (renderChars (entityTokens (EntityNames.ofTable table)) template) =
      (splitOn separator template).map
        (renderChars (entityTokens (EntityNames.ofTable table))) := by
  have foreign {key : String} (isName : IsNameText key.toList) : separator ∉ token key := by
    simp [token, noOpening, noClosing, isName.not_mem other]
  refine splitOn_renderChars ?_ ?_ template
  · simp only [entityTokens, List.forall_mem_cons]
    exact ⟨foreign (by decide), foreign (by decide), foreign (by decide), by simp⟩
  · simp only [entityTokens, List.forall_mem_cons]
    exact ⟨(EntityNames.isNameText_pascal named).not_mem other,
      (EntityNames.isNameText_camel named).not_mem other, named.not_mem other, by simp⟩

/-- A template keeps a first letter that is no brace. -/
theorem head?_renderChars {c : Char} {template : List Char} (plain : c ≠ '\x7b')
    (start : template.head? = some c) (tokens : List (String × String)) :
    (renderChars tokens template).head? = some c := by
  induction tokens generalizing template with
  | nil => exact start
  | cons head rest ih =>
    obtain ⟨key, value⟩ := head
    obtain ⟨others, rfl⟩ := List.head?_eq_some_iff.1 start
    have shape : token key = '\x7b' :: ('\x7b' :: key.toList ++ ['\x7d', '\x7d']) := rfl
    have apart : '\x7b' ∉ [c] := by simpa using Ne.symm plain
    rw [renderChars_cons, shape]
    exact ih (congrArg List.head? (replaceAll_append apart _ value.toList others))

end Template
end SchemaScaffold
