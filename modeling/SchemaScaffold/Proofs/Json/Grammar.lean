import SchemaScaffold.Json.Reader
import SchemaScaffold.Proofs.Json.Token
import SchemaScaffold.Text.Split

/-!
# Texts of values

Which texts write a value in JSON: the same value has texts with different blanks and escapes. Each
of them is read as the value.
-/

namespace SchemaScaffold
namespace Json

/-- Blanks, or none. -/
def IsSpace (text : List Char) : Prop :=
  ∀ c ∈ text, Token.isBlank c = true

/-- A key with blanks around it. -/
def WritesKey (text : List Char) (key : Option String) : Prop :=
  ∃ before quoted after, IsSpace before ∧ Token.IsQuoted quoted key ∧ IsSpace after ∧
    text = before ++ quoted ++ after

/-- A member as it is written: a key and a value on the sides of a colon. -/
structure WrittenMember where
  keyText : List Char
  key : Option String
  valueText : List Char
  value : Value

/-- The text of a member. -/
def WrittenMember.text (member : WrittenMember) : List Char :=
  member.keyText ++ ':' :: member.valueText

/-- A text writes a value. -/
inductive Writes : List Char → Value → Prop
  | null : Writes "null".toList .null
  | bool (value : Bool) : Writes (if value then "true".toList else "false".toList) (.bool value)
  | number {literal : List Char} (isNumeral : Token.IsNumeral literal) :
    Writes literal (.number (String.ofList literal))
  | text {quoted : List Char} {value : Option String} (isQuoted : Token.IsQuoted quoted value) :
    Writes quoted (.text value)
  | list {entries : List (List Char × Value)} {space : List Char}
    (each : ∀ entry ∈ entries, Writes entry.1 entry.2) (isSpace : IsSpace space) :
    Writes ('[' :: (Text.joinWith [','] (entries.map (·.1)) ++ space ++ [']']))
      (.list (entries.map (·.2)))
  | record {members : List WrittenMember} {space : List Char}
    (keys : ∀ member ∈ members, WritesKey member.keyText member.key)
    (each : ∀ member ∈ members, Writes member.valueText member.value) (isSpace : IsSpace space) :
    Writes ('\x7b' :: (Text.joinWith [','] (members.map (·.text)) ++ space ++ ['\x7d']))
      (.record (members.map fun member => (member.key, member.value)))
  | spaced {before text after : List Char} {value : Value} (spaceBefore : IsSpace before)
    (writes : Writes text value) (spaceAfter : IsSpace after) :
    Writes (before ++ text ++ after) value

/-- Blanks in front of a text do not count. -/
theorem Writes.behind {space text : List Char} {value : Value} (writes : Writes text value)
    (isSpace : IsSpace space) : Writes (space ++ text) value := by
  have spaced : Writes (space ++ text ++ []) value := .spaced isSpace writes (by simp [IsSpace])
  rwa [List.append_nil] at spaced

namespace Value

mutual

/-- The tokens of a value. -/
def tokens : Value → List Token
  | .null => [.null]
  | .bool value => [.bool value]
  | .number literal => [.number literal]
  | .text value => [.text value]
  | .list items => .openList :: ([.comma].intercalate (itemTokens items) ++ [.closeList])
  | .record members =>
    .openRecord :: ([.comma].intercalate (memberTokens members) ++ [.closeRecord])

/-- The tokens of each item of a list. -/
def itemTokens : List Value → List (List Token)
  | [] => []
  | item :: items => tokens item :: itemTokens items

/-- The tokens of each member of a record. -/
def memberTokens : List (Option String × Value) → List (List Token)
  | [] => []
  | (key, value) :: members => (.text key :: .colon :: tokens value) :: memberTokens members

end

theorem itemTokens_eq_map (items : List Value) : itemTokens items = items.map tokens := by
  induction items with
  | nil => rfl
  | cons item items ih => rw [itemTokens, ih, List.map_cons]

theorem memberTokens_eq_map (members : List (Option String × Value)) :
    memberTokens members =
      members.map fun member => .text member.1 :: .colon :: tokens member.2 := by
  induction members with
  | nil => rfl
  | cons member members ih => rw [memberTokens, ih, List.map_cons]

end Value

section Lexing

open Token (Lexes EndsNumber Anything)

theorem IsSpace.lexes {space : List Char} (isSpace : IsSpace space) : Lexes Anything space [] :=
  .of_blank isSpace

/-- Blanks do not go on with a number, and neither does what follows them. -/
theorem IsSpace.endsNumber {space rest : List Char} (isSpace : IsSpace space)
    (ends : EndsNumber rest) : EndsNumber (space ++ rest) := by
  cases space with
  | nil => exact ends
  | cons c space =>
    have blank : Token.isBlank c = true := isSpace c List.mem_cons_self
    simp only [Token.isBlank, Bool.or_eq_true, beq_iff_eq] at blank
    rcases blank with ((rfl | rfl) | rfl) | rfl <;> simp [EndsNumber]

/-- Entries between commas are read one after another. -/
theorem lexes_joinWith {entries : List (List Char)} {found : List (List Token)}
    (each : List.Forall₂ (Lexes EndsNumber) entries found) :
    Lexes EndsNumber (Text.joinWith [','] entries) ([.comma].intercalate found) := by
  have comma : Lexes Anything [','] [.comma] := .of_read rfl fun _ _ => rfl
  induction each with
  | nil => exact fun rest _ => by simp [Text.joinWith]
  | @cons entry entryTokens entries found first others ih =>
    cases others with
    | nil => simpa [Text.joinWith] using first
    | cons second others =>
      rw [List.intercalate_cons_cons, Text.joinWith]
      · exact (first.append comma fun rest _ => by simp [EndsNumber]).before ih
      · simp

/-- Entries between brackets are read between the tokens of the brackets. -/
theorem lexes_bracketed {left right : Char} {openToken closeToken : Token}
    (opens : Lexes Anything [left] [openToken]) (closes : Lexes Anything [right] [closeToken])
    (foreign : ∀ rest, EndsNumber (right :: rest)) {space : List Char} (isSpace : IsSpace space)
    {entries : List (List Char)} {found : List (List Token)}
    (each : List.Forall₂ (Lexes EndsNumber) entries found) :
    Lexes Anything (left :: (Text.joinWith [','] entries ++ space ++ [right]))
      (openToken :: ([.comma].intercalate found ++ [closeToken])) := by
  have closing := isSpace.lexes.before closes
  have inside := (lexes_joinWith each).append closing fun rest _ => by
    rw [List.append_assoc]
    exact isSpace.endsNumber (foreign rest)
  have whole := opens.before inside
  simpa using whole

theorem lexes_word {word : List Char} {c : Char} {rest : List Char} {token : Token}
    (shape : word = c :: rest) (dark : Token.isBlank c = false)
    (reads : ∀ text, Token.read c text = Token.word? word token (c :: text)) :
    Lexes Anything word [token] := by
  subst shape
  refine .of_read dark fun text _ => ?_
  simp [reads, Token.word?]

/-- A key, a colon and a value are read one after another. -/
theorem lexes_member {keyText valueText : List Char} {key : Option String} {found : List Token}
    (writes : WritesKey keyText key) (lexes : Lexes EndsNumber valueText found) :
    Lexes EndsNumber (keyText ++ ':' :: valueText) (.text key :: .colon :: found) := by
  have colon : Lexes Anything [':'] [.colon] := .of_read rfl fun _ _ => rfl
  obtain ⟨before, quoted, after, spaceBefore, isQuoted, spaceAfter, rfl⟩ := writes
  have front := (spaceBefore.lexes.before (Token.lexes_quoted isQuoted)).before spaceAfter.lexes
  exact front.before (colon.before lexes)

/-- The text of a value is read as the value's tokens. -/
theorem Writes.lexes {text : List Char} {value : Value} (writes : Writes text value) :
    Lexes EndsNumber text value.tokens := by
  induction writes with
  | null => exact (lexes_word rfl (by decide) fun _ => rfl).weaken
  | bool value =>
    cases value with
    | true => exact (lexes_word rfl (by decide) fun _ => rfl).weaken
    | false => exact (lexes_word rfl (by decide) fun _ => rfl).weaken
  | number isNumeral => exact Token.lexes_numeral isNumeral
  | text isQuoted => exact (Token.lexes_quoted isQuoted).weaken
  | @list entries space _ isSpace ih =>
    have found : List.Forall₂ (Lexes EndsNumber) (entries.map (·.1))
        (Value.itemTokens (entries.map (·.2))) := by
      rw [Value.itemTokens_eq_map, List.map_map, List.forall₂_map_left_iff,
        List.forall₂_map_right_iff, List.forall₂_same]
      exact ih
    exact (lexes_bracketed (.of_read rfl fun _ _ => rfl) (.of_read rfl fun _ _ => rfl)
      (fun _ => by simp [EndsNumber]) isSpace found).weaken
  | @record members space keys _ isSpace ih =>
    have found : List.Forall₂ (Lexes EndsNumber) (members.map (·.text))
        (Value.memberTokens (members.map fun member => (member.key, member.value))) := by
      rw [Value.memberTokens_eq_map, List.map_map, List.forall₂_map_left_iff,
        List.forall₂_map_right_iff, List.forall₂_same]
      exact fun member isMember => lexes_member (keys member isMember) (ih member isMember)
    exact (lexes_bracketed (.of_read rfl fun _ _ => rfl) (.of_read rfl fun _ _ => rfl)
      (fun _ => by simp [EndsNumber]) isSpace found).weaken
  | spaced spaceBefore _ spaceAfter ih =>
    have whole := spaceBefore.lexes.before
      (ih.append spaceAfter.lexes.weaken fun rest ends => spaceAfter.endsNumber ends)
    simpa using whole

end Lexing

namespace Value

/-- Enough steps read a value from its tokens, whatever follows. -/
def IsRead (value : Value) : Prop :=
  ∀ fuel rest, 2 * value.tokens.length ≤ fuel →
    readValue fuel (value.tokens ++ rest) = some (value, rest)

/-- Where items are read, the list does not end at once. -/
theorem readValue_openList {fuel : Nat} {body rest : List Token} {items : List Value}
    (read : readItems fuel body = some (items, rest)) :
    readValue (fuel + 1) (.openList :: body) = some (.list items, rest) := by
  rw [readValue, read]
  · rfl
  · rintro after rfl
    rcases fuel with _ | _ | fuel <;> simp [readItems, readValue] at read

/-- Where members are read, the record does not end at once. -/
theorem readValue_openRecord {fuel : Nat} {body rest : List Token}
    {members : List (Option String × Value)} (read : readMembers fuel body = some (members, rest)) :
    readValue (fuel + 1) (.openRecord :: body) = some (.record members, rest) := by
  rw [readValue, read]
  · rfl
  · rintro after rfl
    rcases fuel with _ | fuel <;> simp [readMembers] at read

theorem readItems_tokens {item : Value} {items : List Value}
    (each : ∀ value ∈ item :: items, IsRead value) {fuel : Nat}
    (enough : 2 * ([Token.comma].intercalate (itemTokens (item :: items))).length < fuel)
    (rest : List Token) :
    readItems fuel ([Token.comma].intercalate (itemTokens (item :: items)) ++ .closeList :: rest) =
      some (item :: items, rest) := by
  induction items generalizing item fuel with
  | nil =>
    obtain ⟨fuel, rfl⟩ : ∃ steps, fuel = steps + 1 := ⟨fuel - 1, by omega⟩
    simp only [itemTokens, List.intercalate_singleton] at enough ⊢
    rw [readItems, each item (by simp) fuel _ (by omega)]
  | cons second items ih =>
    obtain ⟨fuel, rfl⟩ : ∃ steps, fuel = steps + 1 := ⟨fuel - 1, by omega⟩
    obtain ⟨own, others⟩ := List.forall_mem_cons.1 each
    rw [itemTokens] at enough ⊢
    have shape : itemTokens (second :: items) = tokens second :: itemTokens items := rfl
    rw [shape, List.intercalate_cons_cons, ← shape] at enough ⊢
    simp only [List.length_append, List.length_singleton] at enough
    rw [List.append_assoc, List.append_assoc, readItems, own fuel _ (by omega)]
    simp only [List.cons_append, List.nil_append]
    rw [ih others (by omega)]
    rfl

theorem readMembers_tokens {member : Option String × Value}
    {members : List (Option String × Value)}
    (each : ∀ entry ∈ member :: members, IsRead entry.2) {fuel : Nat}
    (enough : 2 * ([Token.comma].intercalate (memberTokens (member :: members))).length < fuel)
    (rest : List Token) :
    readMembers fuel
        ([Token.comma].intercalate (memberTokens (member :: members)) ++ .closeRecord :: rest) =
      some (member :: members, rest) := by
  induction members generalizing member fuel with
  | nil =>
    obtain ⟨fuel, rfl⟩ : ∃ steps, fuel = steps + 1 := ⟨fuel - 1, by omega⟩
    simp only [memberTokens, List.intercalate_singleton, List.length_cons] at enough
    simp only [memberTokens, List.intercalate_singleton, List.cons_append]
    rw [readMembers, each member (by simp) fuel _ (by omega)]
  | cons second members ih =>
    obtain ⟨fuel, rfl⟩ : ∃ steps, fuel = steps + 1 := ⟨fuel - 1, by omega⟩
    obtain ⟨key, value⟩ := member
    have own : IsRead value := each (key, value) List.mem_cons_self
    have others : ∀ entry ∈ second :: members, IsRead entry.2 :=
      fun entry later => each entry (List.mem_cons_of_mem _ later)
    rw [memberTokens] at enough ⊢
    have shape : memberTokens (second :: members) =
        (.text second.1 :: .colon :: tokens second.2) :: memberTokens members := rfl
    rw [shape, List.intercalate_cons_cons, ← shape] at enough ⊢
    simp only [List.length_append, List.length_cons, List.length_nil] at enough
    rw [List.append_assoc, List.append_assoc]
    simp only [List.cons_append, List.nil_append]
    rw [readMembers, own fuel _ (by omega)]
    simp only
    rw [ih others (by omega)]
    rfl

theorem isRead_list {items : List Value} (each : ∀ item ∈ items, IsRead item) :
    IsRead (.list items) := by
  intro fuel rest enough
  simp only [tokens, List.length_cons, List.length_append, List.length_nil] at enough
  obtain ⟨fuel, rfl⟩ : ∃ steps, fuel = steps + 1 := ⟨fuel - 1, by omega⟩
  cases items with
  | nil => rfl
  | cons item items =>
    rw [tokens, List.cons_append, List.append_assoc]
    exact readValue_openList (readItems_tokens each (by omega) rest)

theorem isRead_record {members : List (Option String × Value)}
    (each : ∀ member ∈ members, IsRead member.2) : IsRead (.record members) := by
  intro fuel rest enough
  simp only [tokens, List.length_cons, List.length_append, List.length_nil] at enough
  obtain ⟨fuel, rfl⟩ : ∃ steps, fuel = steps + 1 := ⟨fuel - 1, by omega⟩
  cases members with
  | nil => rfl
  | cons member members =>
    rw [tokens, List.cons_append, List.append_assoc]
    exact readValue_openRecord (readMembers_tokens each (by omega) rest)

end Value

/-- The tokens of a value that has a text are read as the value. -/
theorem Writes.isRead {text : List Char} {value : Value} (writes : Writes text value) :
    value.IsRead := by
  induction writes with
  | null | bool | number | text =>
    intro fuel rest enough
    obtain ⟨fuel, rfl⟩ : ∃ steps, fuel = steps + 1 :=
      ⟨fuel - 1, by simp [Value.tokens] at enough; omega⟩
    rfl
  | list _ _ ih => exact Value.isRead_list (List.forall_mem_map.2 ih)
  | record _ _ _ ih => exact Value.isRead_record (List.forall_mem_map.2 ih)
  | spaced _ _ _ ih => exact ih

/-- A text that writes a value is read as the value. -/
theorem Writes.ofText? {text : String} {value : Value} (writes : Writes text.toList value) :
    Value.ofText? text = some value := by
  have lexed : Token.readAll text.toList = some value.tokens :=
    writes.lexes.readAll (by simp [Token.EndsNumber])
  have read := writes.isRead (2 * value.tokens.length + 1) [] (by omega)
  rw [List.append_nil] at read
  simp [Value.ofText?, lexed, Value.ofTokens?, read]

end Json
end SchemaScaffold
