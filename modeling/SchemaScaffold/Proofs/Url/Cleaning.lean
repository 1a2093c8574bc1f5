import SchemaScaffold.Proofs.Url.Extension

/-!
# Cleaned texts of addresses

How a text that goes on behind a slash is cleaned, and how its scheme is read: what was in front of
the slash stays the same, unless blanks at its end come to stand inside.
-/

namespace SchemaScaffold
namespace Url

/-- Control characters and spaces, which are dropped at the ends of a text. -/
def isEdge (c : Char) : Bool :=
  c.toNat ≤ 0x20

/-- Tabs and line breaks, which are dropped everywhere. -/
def isBreak (c : Char) : Bool :=
  c == '\t' || c == '\n' || c == '\r'

/-- A text that is cleaned, but for its end. -/
def cleanFront (text : List Char) : List Char :=
  (text.dropWhile isEdge).filter (!isBreak ·)

theorem clean_eq (text : List Char) :
    clean text =
      (((text.dropWhile isEdge).reverse.dropWhile isEdge).reverse).filter (!isBreak ·) := by
  unfold clean isEdge isBreak
  simp only [Bool.not_or, bne]

theorem cleanFront_subset (text : List Char) : cleanFront text ⊆ text :=
  List.Subset.trans List.filter_sublist.subset (List.dropWhile_subset _)

/-- Visible characters at the end stay, and what is in front of them is cleaned but for its end. -/
theorem clean_append {back : List Char} (nonempty : back ≠ [])
    (visible : ∀ c ∈ back, isEdge c = false ∧ isBreak c = false) (front : List Char) :
    clean (front ++ back) = cleanFront front ++ back := by
  have stays {text : List Char} (plain : ∀ c ∈ text, isEdge c = false) :
      text.dropWhile isEdge = text := by
    cases text with
    | nil => rfl
    | cons c rest => rw [List.dropWhile_cons, plain c List.mem_cons_self, if_neg Bool.false_ne_true]
  have plain : ∀ c ∈ back, isEdge c = false := fun c member => (visible c member).1
  have frontKept : (front ++ back).dropWhile isEdge = front.dropWhile isEdge ++ back := by
    rw [List.dropWhile_append, stays plain]
    split
    · next empty => rw [List.isEmpty_iff.1 empty, List.nil_append]
    · rfl
  have endKept (text : List Char) :
      (text ++ back).reverse.dropWhile isEdge = (text ++ back).reverse := by
    rw [List.reverse_append, List.dropWhile_append, stays (by simpa using plain)]
    simp [nonempty]
  have kept : back.filter (!isBreak ·) = back :=
    List.filter_eq_self.2 fun c member => by simp [(visible c member).2]
  rw [clean_eq, frontKept, endKept, List.reverse_reverse, List.filter_append, kept, cleanFront]

/-- All blanks at the end of a text are tabs and line breaks. -/
def EndsVisibly (text : List Char) : Prop :=
  ∀ c ∈ text.reverse.takeWhile isEdge, isBreak c = true

instance (text : List Char) : Decidable (EndsVisibly text) :=
  decidable_of_iff ((text.reverse.takeWhile isEdge).all isBreak = true) List.all_eq_true

theorem clean_of_endsVisibly {text : List Char} (ends : EndsVisibly text) :
    clean text = cleanFront text := by
  have broken : ∀ c ∈ (text.dropWhile isEdge).reverse.takeWhile isEdge, isBreak c = true := by
    intro c member
    refine ends c ?_
    have whole : text.reverse =
        (text.dropWhile isEdge).reverse ++ (text.takeWhile isEdge).reverse := by
      rw [← List.reverse_append, List.takeWhile_append_dropWhile]
    rw [whole, List.takeWhile_append]
    split
    · exact List.mem_append_left _ (List.takeWhile_subset _ member)
    · exact member
  have parted : text.dropWhile isEdge =
      ((text.dropWhile isEdge).reverse.dropWhile isEdge).reverse ++
        ((text.dropWhile isEdge).reverse.takeWhile isEdge).reverse := by
    rw [← List.reverse_append, List.takeWhile_append_dropWhile, List.reverse_reverse]
  have nothing :
      ((text.dropWhile isEdge).reverse.takeWhile isEdge).reverse.filter (!isBreak ·) = [] :=
    List.filter_eq_nil_iff.2 fun c member => by simp [broken c (List.mem_reverse.1 member)]
  rw [clean_eq, cleanFront]
  conv => rhs; rw [parted]
  rw [List.filter_append, nothing, List.append_nil]

/-- A scheme begins with a letter, and a colon ends it. -/
structure IsScheme (name : List Char) : Prop where
  chars : ∀ c ∈ name, isSchemeChar c = true
  letter : name.head?.any Char.isAlpha = true

theorem scheme?_append_colon {name : List Char} (isScheme : IsScheme name) (rest : List Char) :
    scheme? (name ++ ':' :: rest) = some (name.map Char.toLower, rest) := by
  obtain ⟨chars, letter⟩ := isScheme
  cases name with
  | nil => simp at letter
  | cons first others =>
    have alpha : first.isAlpha = true := letter
    have colon : isSchemeChar ':' = false := by decide
    have front : (first :: others ++ ':' :: rest).takeWhile isSchemeChar = first :: others := by
      rw [List.takeWhile_append_of_pos chars]
      simp [colon]
    have back : (first :: others ++ ':' :: rest).dropWhile isSchemeChar = ':' :: rest := by
      rw [List.dropWhile_append_of_pos chars]
      simp [colon]
    rw [scheme?, front, back]
    simp [alpha]

theorem exists_isScheme {text scheme rest : List Char}
    (read : scheme? text = some (scheme, rest)) :
    ∃ name, IsScheme name ∧ scheme = name.map Char.toLower ∧ text = name ++ ':' :: rest := by
  unfold scheme? at read
  split at read
  · next first behind start found =>
    split at read
    · next alpha =>
      obtain ⟨rfl, rfl⟩ := Prod.mk.inj (Option.some.inj read)
      have whole := List.takeWhile_append_dropWhile (p := isSchemeChar) (l := text)
      rw [found] at whole
      refine ⟨text.takeWhile isSchemeChar, ⟨fun c member => ?_, ?_⟩, rfl, whole.symm⟩
      · exact List.mem_takeWhile_imp member
      · obtain ⟨others, rfl⟩ := List.head?_eq_some_iff.1 start
        have own : isSchemeChar first = true := by simp [isSchemeChar, Char.isAlphanum, alpha]
        simp [own, alpha]
    · simp at read
  · simp at read

/-- A scheme is read in front of slashes, whatever follows. -/
theorem exists_scheme_append {text scheme behind : List Char} {count : Nat}
    (read : scheme? (text ++ List.replicate count '/') = some (scheme, behind)) :
    ∃ rest, rest ⊆ text ∧ behind = rest ++ List.replicate count '/' ∧
      ∀ tail, scheme? (text ++ tail) = some (scheme, rest ++ tail) := by
  obtain ⟨name, isScheme, rfl, whole⟩ := exists_isScheme read
  obtain ⟨rest, rfl, rfl⟩ : ∃ rest, text = name ++ ':' :: rest ∧
      behind = rest ++ List.replicate count '/' := by
    have noColon (front : List Char) : List.replicate count '/' ≠ front ++ ':' :: behind := by
      intro same
      have colon : ':' ∈ List.replicate count '/' := by simp [same]
      simpa using List.eq_of_mem_replicate colon
    rcases List.append_eq_append_iff.1 whole with ⟨more, -, back⟩ | ⟨more, front, back⟩
    · exact absurd back (noColon more)
    · cases more with
      | nil => exact absurd back.symm (noColon [])
      | cons c rest =>
        obtain ⟨rfl, same⟩ := List.cons.inj back
        exact ⟨rest, front, same⟩
  exact ⟨rest, by simp, rfl, fun tail => by
    rw [List.append_assoc, List.cons_append, scheme?_append_colon isScheme]⟩

open Path (IsPlain)
open Text (joinWith)

theorem clean_append_slashes {text : List Char} {count : Nat}
    (visible : EndsVisibly (text ++ List.replicate count '/')) :
    clean (text ++ List.replicate count '/') = cleanFront text ++ List.replicate count '/' := by
  cases count with
  | zero =>
    rw [List.replicate_zero, List.append_nil] at visible ⊢
    rw [List.append_nil]
    exact clean_of_endsVisibly visible
  | succ count =>
    refine clean_append (by simp [List.replicate_succ]) (fun c member => ?_) text
    rw [List.eq_of_mem_replicate member]
    decide

/-- Slashes and plain segments are visible. -/
theorem isEdge_joinWith {segments : List (List Char)}
    (plain : ∀ segment ∈ segments, IsPlain segment ∧ segment ≠ []) :
    ∀ c ∈ '/' :: joinWith ['/'] segments, isEdge c = false ∧ isBreak c = false := by
  refine List.forall_mem_cons.2 ⟨by decide, forall_mem_joinWith (by decide) ?_⟩
  intro segment member c inside
  have kept := ((plain segment member).1 c inside).1
  constructor
  · simp only [Path.keeps, Bool.and_eq_true, decide_eq_true_eq] at kept
    simpa [isEdge] using kept.1.1
  · rw [← Bool.not_eq_true, isBreak, Bool.or_eq_true, Bool.or_eq_true, beq_iff_eq, beq_iff_eq,
      beq_iff_eq]
    rintro ((rfl | rfl) | rfl) <;> exact absurd kept (by decide)

/-- An address goes on behind a slash for the ones at its end if what follows its scheme leads on
there. -/
theorem exists_continues_parse {segments : List (List Char)}
    (plain : ∀ segment ∈ segments, IsPlain segment ∧ segment ≠ []) {text : List Char} {count : Nat}
    (visible : EndsVisibly (text ++ List.replicate count '/')) (unmarked : IsUnmarked text)
    (leadsOn : ∀ pair ∈ scheme? (clean (text ++ ['/'])), LeadsOn pair.1 pair.2) {old : Url}
    (read : parse (String.ofList (text ++ List.replicate count '/')) = .ok old) :
    ∃ new, parse (String.ofList (text ++ '/' :: joinWith ['/'] segments)) = .ok new ∧
      Continues segments old new := by
  have one : EndsVisibly (text ++ List.replicate 1 '/') := by simp [EndsVisibly, isEdge]
  have slash : clean (text ++ ['/']) = cleanFront text ++ ['/'] := clean_append_slashes one
  have more := clean_append (List.cons_ne_nil _ _) (isEdge_joinWith plain) text
  unfold parse at read ⊢
  rw [String.toList_ofList] at read ⊢
  rw [clean_append_slashes visible] at read
  rw [more]
  rw [slash] at leadsOn
  cases found : scheme? (cleanFront text ++ List.replicate count '/') with
  | none => simp [found] at read
  | some pair =>
    obtain ⟨scheme, behind⟩ := pair
    obtain ⟨rest, within, rfl, isScheme⟩ := exists_scheme_append found
    rw [found] at read
    rw [isScheme]
    have subset := List.Subset.trans within (cleanFront_subset text)
    exact exists_continues_ofScheme plain (unmarked.of_subset subset)
      (leadsOn _ (isScheme ['/'])) read

end Url
end SchemaScaffold
