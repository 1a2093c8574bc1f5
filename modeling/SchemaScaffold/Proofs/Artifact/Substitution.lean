import Mathlib.Tactic.Choose
import SchemaScaffold.Proofs.Artifact.Template
import SchemaScaffold.Proofs.Text.Searching

/-!
# Simultaneous substitution

A template of tokens and literal texts is rendered piece by piece: each listed token becomes its
value, and all else stays. That the values are put in one after another does not show, since no
token begins in a literal text or in a value.
-/

namespace SchemaScaffold
namespace Template

open Text

/-- A text with single braces only, and with no brace at either end. -/
structure IsLiteral (text : List Char) : Prop where
  noOpening : ¬ ['\x7b', '\x7b'] <:+: text
  noClosing : ¬ ['\x7d', '\x7d'] <:+: text
  first : ∀ c ∈ text.head?, isBrace c = false
  last : ∀ c ∈ text.getLast?, isBrace c = false

theorem isLiteral_iff {text : List Char} : IsLiteral text ↔
    occursIn ['\x7b', '\x7b'] text = false ∧ occursIn ['\x7d', '\x7d'] text = false ∧
      (text.head?.all fun c => !isBrace c) = true ∧
        (text.getLast?.all fun c => !isBrace c) = true := by
  rw [← Bool.not_eq_true, ← Bool.not_eq_true, occursIn_iff, occursIn_iff]
  simp only [Option.all_eq_true, Bool.not_eq_eq_eq_not, Bool.not_true]
  exact ⟨fun literal => ⟨literal.noOpening, literal.noClosing, literal.first, literal.last⟩,
    fun ⟨opening, closing, first, last⟩ => ⟨opening, closing, first, last⟩⟩

instance (text : List Char) : Decidable (IsLiteral text) :=
  decidable_of_iff' _ isLiteral_iff

theorem IsBraceFree.isLiteral {text : List Char} (free : IsBraceFree text) : IsLiteral text where
  noOpening inside := absurd (free '\x7b' (inside.subset (by simp))) (by decide)
  noClosing inside := absurd (free '\x7d' (inside.subset (by simp))) (by decide)
  first c isFirst := free c (List.mem_of_mem_head? isFirst)
  last c isLast := free c (List.mem_of_mem_getLast? isLast)

/-- A part of a template. -/
inductive Piece where
  | literal (text : List Char) (plain : IsLiteral text)
  | token (key : String) (free : IsBraceFree key.toList)

namespace Piece

/-- A piece as it is written. -/
def chars : Piece → List Char
  | literal text _ => text
  | token key _ => Template.token key

/-- A piece with the value of its key in place of a token. A token whose key is not listed stays. -/
def substituted (tokens : List (String × String)) : Piece → List Char
  | literal text _ => text
  | token key _ => (tokens.lookup key).elim (Template.token key) String.toList

@[simp] theorem chars_literal {text : List Char} (plain : IsLiteral text) :
    (literal text plain).chars = text := rfl

@[simp] theorem chars_token {key : String} (free : IsBraceFree key.toList) :
    (token key free).chars = Template.token key := rfl

@[simp] theorem substituted_literal (tokens : List (String × String)) {text : List Char}
    (plain : IsLiteral text) : (literal text plain).substituted tokens = text := rfl

@[simp] theorem substituted_token (tokens : List (String × String)) {key : String}
    (free : IsBraceFree key.toList) : (token key free).substituted tokens =
      (tokens.lookup key).elim (Template.token key) String.toList := rfl

/-- The template that pieces make. -/
def template (pieces : List Piece) : String :=
  String.ofList (pieces.flatMap chars)

end Piece

/-- Keys that are told apart, and texts without braces for keys and values. -/
structure IsBinding (tokens : List (String × String)) : Prop where
  distinct : (tokens.map (·.1)).Nodup
  keys : ∀ pair ∈ tokens, IsBraceFree pair.1.toList
  values : ∀ pair ∈ tokens, IsBraceFree pair.2.toList

/-- The names of a table's entity are bound to keys that are told apart. -/
theorem isBinding_entityTokens {table : String} (named : IsNameText table.toList) :
    IsBinding (entityTokens (EntityNames.ofTable table)) where
  distinct := by
    have listed : (entityTokens (EntityNames.ofTable table)).map (·.1) =
        ["Entity", "entity", "table"] := rfl
    rw [listed]
    decide
  keys := isBraceFree_of_mem_entityTokens _
  values := by
    have free {text : List Char} (isName : IsNameText text) : IsBraceFree text := by
      refine fun c member => Bool.eq_false_iff.2 fun brace => ?_
      have cases : c = '\x7b' ∨ c = '\x7d' := by simpa [isBrace] using brace
      rcases cases with rfl | rfl
      · exact isName.not_mem (by decide) member
      · exact isName.not_mem (by decide) member
    simp only [entityTokens, List.forall_mem_cons]
    exact ⟨free (EntityNames.isNameText_pascal named), free (EntityNames.isNameText_camel named),
      free named, by simp⟩

/-- No token begins in a literal text. -/
theorem replaceAll_literal_append {text : List Char} (literal : IsLiteral text) (key : String)
    (value back : List Char) :
    replaceAll (token key) value (text ++ back) = text ++ replaceAll (token key) value back := by
  have needle : token key = '\x7b' :: '\x7b' :: (key.toList ++ ['\x7d', '\x7d']) := rfl
  have noOpening := literal.noOpening
  have last := literal.last
  clear literal
  induction text with
  | nil => rfl
  | cons c rest ih =>
    have apart : ¬ token key <+: c :: (rest ++ back) := by
      rw [needle, List.cons_prefix_cons]
      rintro ⟨rfl, found⟩
      cases rest with
      | nil => exact absurd (last '\x7b' (by simp)) (by decide)
      | cons d more =>
        obtain ⟨rfl, -⟩ := List.cons_prefix_cons.1 found
        exact noOpening (List.prefix_append ['\x7b', '\x7b'] more).isInfix
    have restOpening : ¬ ['\x7b', '\x7b'] <:+: rest := fun inside =>
      noOpening (inside.trans (List.suffix_cons c rest).isInfix)
    have restLast : ∀ d ∈ rest.getLast?, isBrace d = false := by
      intro d isLast
      cases rest with
      | nil => simp at isLast
      | cons e more => exact last d (by simpa using isLast)
    rw [List.cons_append, replaceAll_cons_of_apart apart, ih restOpening restLast, List.cons_append]

/-- A piece after one key has been given its value. -/
def Piece.bind (key : String) (value : List Char) (plain : IsLiteral value) : Piece → Piece
  | literal text isLiteral => literal text isLiteral
  | token other free => if other = key then literal value plain else token other free

/-- Replacing one token is done piece by piece. -/
theorem replaceAll_pieces {key : String} (keyFree : IsBraceFree key.toList) {value : List Char}
    (plain : IsLiteral value) (pieces : List Piece) :
    replaceAll (token key) value (pieces.flatMap Piece.chars) =
      (pieces.map (Piece.bind key value plain)).flatMap Piece.chars := by
  induction pieces with
  | nil => rfl
  | cons piece rest ih =>
    rw [List.flatMap_cons, List.map_cons, List.flatMap_cons, ← ih]
    cases piece with
    | literal text isLiteral => exact replaceAll_literal_append isLiteral key value _
    | token other otherFree =>
      by_cases same : other = key
      · subst same
        simpa [Piece.bind] using replaceAll_needle (by simp [token]) value _
      · rw [Piece.bind, if_neg same]
        exact replaceAll_token_append (Ne.symm same) keyFree otherFree value _

/-- Rendering is done piece by piece. -/
theorem renderChars_pieces {tokens : List (String × String)}
    (keys : ∀ pair ∈ tokens, IsBraceFree pair.1.toList)
    (values : ∀ pair ∈ tokens, IsBraceFree pair.2.toList) (pieces : List Piece) :
    renderChars tokens (pieces.flatMap Piece.chars) =
      pieces.flatMap (Piece.substituted tokens) := by
  induction tokens generalizing pieces with
  | nil =>
    have same : Piece.chars = Piece.substituted [] := by
      funext piece
      cases piece <;> rfl
    rw [renderChars_nil, same]
  | cons head rest ih =>
    obtain ⟨key, value⟩ := head
    obtain ⟨keyFree, otherKeys⟩ := List.forall_mem_cons.1 keys
    obtain ⟨valueFree, otherValues⟩ := List.forall_mem_cons.1 values
    -- From here on the value of the first key is a literal text among the pieces.
    have step (piece : Piece) :
        (piece.bind key value.toList valueFree.isLiteral).substituted rest =
          piece.substituted ((key, value) :: rest) := by
      cases piece with
      | literal text isLiteral => rfl
      | token other otherFree =>
        by_cases same : other = key
        · simp [Piece.bind, same]
        · have apart : (other == key) = false := beq_eq_false_iff_ne.2 same
          simp [Piece.bind, same, List.lookup_cons, apart]
    rw [renderChars_cons, replaceAll_pieces keyFree valueFree.isLiteral, ih otherKeys otherValues,
      List.flatMap_map]
    exact congrArg (pieces.flatMap ·) (funext step)

/-- Which value a key has does not depend on the order in which keys are listed. -/
theorem lookup_of_perm {tokens others : List (String × String)} (reordered : tokens.Perm others)
    (distinct : (tokens.map (·.1)).Nodup) (key : String) :
    others.lookup key = tokens.lookup key := by
  induction reordered with
  | nil => rfl
  | cons pair _ ih =>
    rw [List.lookup_cons, List.lookup_cons, ih (List.nodup_cons.1 distinct).2]
  | swap first second rest =>
    obtain ⟨firstKey, firstValue⟩ := first
    obtain ⟨secondKey, secondValue⟩ := second
    have apart : secondKey ≠ firstKey := by
      simp only [List.map_cons, List.nodup_cons, List.mem_cons, not_or] at distinct
      exact distinct.1.1
    by_cases isFirst : key = firstKey
    · have other : (key == secondKey) = false := beq_eq_false_iff_ne.2 (isFirst ▸ Ne.symm apart)
      simp only [List.lookup_cons, other]
    · have other : (key == firstKey) = false := beq_eq_false_iff_ne.2 isFirst
      simp only [List.lookup_cons, other]
  | trans firstStep _ early late =>
    rw [late ((firstStep.map _).nodup_iff.1 distinct), early distinct]

section Binding

variable {tokens others : List (String × String)} (binding : IsBinding tokens)

include binding

theorem IsBinding.of_perm (reordered : tokens.Perm others) : IsBinding others where
  distinct := (reordered.map _).nodup_iff.1 binding.distinct
  keys pair member := binding.keys pair (reordered.mem_iff.2 member)
  values pair member := binding.values pair (reordered.mem_iff.2 member)

theorem substituted_of_perm (reordered : tokens.Perm others) :
    Piece.substituted others = Piece.substituted tokens := by
  funext piece
  cases piece with
  | literal text plain => rfl
  | token key free =>
    rw [Piece.substituted_token, Piece.substituted_token,
      lookup_of_perm reordered binding.distinct]

/-- What a piece becomes is a piece that stays as it is. -/
theorem Piece.exists_settled (piece : Piece) :
    ∃ settled : Piece, settled.chars = piece.substituted tokens ∧
      settled.substituted tokens = settled.chars := by
  cases piece with
  | literal text plain => exact ⟨literal text plain, rfl, rfl⟩
  | token key free =>
    cases found : tokens.lookup key with
    | none => exact ⟨token key free, by simp [found], by simp [found]⟩
    | some value =>
      obtain ⟨before, after, shape, -⟩ := List.lookup_eq_some_iff.1 found
      have valueFree : IsBraceFree value.toList := binding.values (key, value) (by simp [shape])
      exact ⟨literal value.toList valueFree.isLiteral, by simp [found], rfl⟩

/-- What has been rendered stays as it is. -/
theorem renderChars_substituted (pieces : List Piece) :
    renderChars tokens (pieces.flatMap (Piece.substituted tokens)) =
      pieces.flatMap (Piece.substituted tokens) := by
  choose settle written kept using Piece.exists_settled binding
  have settled : pieces.flatMap (Piece.substituted tokens) =
      (pieces.map settle).flatMap Piece.chars := by
    simp only [List.flatMap_map, written]
  rw [settled, renderChars_pieces binding.keys binding.values, List.flatMap_map, List.flatMap_map]
  simp only [kept]

end Binding

/-- A template of tokens and literal texts is rendered with each listed token replaced by its value
and all else as it is. The order in which the tokens are listed does not count, and rendering again
changes nothing. -/
theorem rendering_is_simultaneous {tokens others : List (String × String)}
    (binding : IsBinding tokens) (reordered : tokens.Perm others) (pieces : List Piece) :
    render (Piece.template pieces) tokens =
        String.ofList (pieces.flatMap (Piece.substituted tokens)) ∧
      render (Piece.template pieces) others = render (Piece.template pieces) tokens ∧
      render (render (Piece.template pieces) tokens) tokens =
        render (Piece.template pieces) tokens := by
  have other := binding.of_perm reordered
  simp only [render, Piece.template, String.toList_ofList]
  rw [renderChars_pieces binding.keys binding.values, renderChars_pieces other.keys other.values,
    substituted_of_perm binding reordered, renderChars_substituted binding]
  exact ⟨rfl, rfl, rfl⟩

/-- A line with every token of a table's templates, side by side or with single braces between them,
and with a token that nothing is listed for. -/
def orderPieces : List Piece := [
  .literal "class ".toList (by decide), .token "Entity" (by decide),
  .literal "Controller \x7b ".toList (by decide), .token "entity" (by decide),
  .token "table" (by decide), .literal " \x7d // ".toList (by decide),
  .token "ENTITY" (by decide)]

/-- The names of a table are put in from the last to the first. -/
theorem order_names_are_put_in_backwards :
    IsBinding (entityTokens (EntityNames.ofTable "order_items")) ∧
      (entityTokens (EntityNames.ofTable "order_items")).Perm
        (entityTokens (EntityNames.ofTable "order_items")).reverse ∧
      render (Piece.template orderPieces)
          (entityTokens (EntityNames.ofTable "order_items")).reverse =
        "class OrderItemController \x7b orderItemorder_items \x7d // \x7b\x7bENTITY\x7d\x7d" := by
  have binding : IsBinding (entityTokens (EntityNames.ofTable "order_items")) :=
    isBinding_entityTokens (by decide)
  have reordered := (List.reverse_perm (entityTokens (EntityNames.ofTable "order_items"))).symm
  obtain ⟨rendered, backwards, -⟩ := rendering_is_simultaneous binding reordered orderPieces
  refine ⟨binding, reordered, ?_⟩
  rw [backwards, rendered]
  decide

end Template
end SchemaScaffold
