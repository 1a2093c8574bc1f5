import Mathlib.Combinatorics.Enumerative.DoubleCounting
import SchemaScaffold.Proofs.Text.Searching

/-!
# Places of matches

What a scan finds, together with where it finds it: a place of a text is the text from there on.
Matches do not overlap, and every place at which something can be read is the start of a match
or inside one. Scans with different readers are compared by the places that their matches cover.
-/

namespace SchemaScaffold
namespace Text

variable {α β : Type}

/-- Keep with what is read the text from which it was read. -/
def located (read : Matcher α) : Matcher (α × List Char) := fun text =>
  (read text).map fun found => ((found.1, text), found.2)

/-- What a scan finds, each with the text from its start on. -/
def findings (read : Matcher α) (text : List Char) : List (α × List Char) :=
  scan (located read) text

/-- Whatever is read takes at least one character. -/
def Consumes (read : Matcher α) : Prop :=
  ∀ text value after, read text = some (value, after) → after.length < text.length

/-- The match at a start goes over a place, or begins there. -/
def Covers (read : Matcher α) (start place : List Char) : Prop :=
  place <:+ start ∧ ∃ value after, read start = some (value, after) ∧ after.length < place.length

section Scan

variable {read : Matcher α}

theorem located_eq_some {text place after : List Char} {value : α} :
    located read text = some ((value, place), after) ↔
      place = text ∧ read text = some (value, after) := by
  unfold located
  rw [Option.map_eq_some_iff]
  constructor
  · rintro ⟨⟨value', after'⟩, found, shape⟩
    obtain ⟨⟨rfl, rfl⟩, rfl⟩ : (value' = value ∧ text = place) ∧ after' = after := by
      simpa using shape
    exact ⟨rfl, found⟩
  · rintro ⟨rfl, found⟩
    exact ⟨(value, after), found, rfl⟩

theorem located_eq_none {text : List Char} : located read text = none ↔ read text = none := by
  simp [located]

/-- Places are only kept, so that the same values are found. -/
theorem map_findings (read : Matcher α) (text : List Char) :
    (findings read text).map (·.1) = scan read text := by
  have from_ (pending : Nat) :
      (scanFrom (located read) pending text).map (·.1) = scanFrom read pending text := by
    induction text generalizing pending with
    | nil => simp [scanFrom]
    | cons c rest ih =>
      cases pending with
      | succ pending => exact ih pending
      | zero =>
        cases found : read (c :: rest) with
        | none => simp only [scanFrom, found, located_eq_none.2 found, ih]
        | some reading =>
          obtain ⟨value, after⟩ := reading
          simp only [scanFrom, found, located_eq_some.2 ⟨rfl, found⟩, List.map_cons, ih]
  exact from_ 0

/-- What is found was read at a place of the text, behind all that is still to be passed over. -/
theorem mem_scanFrom_located {pending : Nat} {text : List Char} {finding : α × List Char}
    (member : finding ∈ scanFrom (located read) pending text) :
    finding.2 <:+ text ∧ (finding.2.length + pending ≤ text.length) ∧
      ∃ after, read finding.2 = some (finding.1, after) := by
  induction text generalizing pending with
  | nil => simp [scanFrom] at member
  | cons c rest ih =>
    cases pending with
    | succ pending =>
      obtain ⟨within, behind, given⟩ := ih member
      exact ⟨within.trans (List.suffix_cons c rest), by rw [List.length_cons]; omega, given⟩
    | zero =>
      have later {pending : Nat} (found : finding ∈ scanFrom (located read) pending rest) :
          finding.2 <:+ c :: rest ∧ finding.2.length + 0 ≤ (c :: rest).length ∧
            ∃ after, read finding.2 = some (finding.1, after) := by
        obtain ⟨within, behind, given⟩ := ih found
        exact ⟨within.trans (List.suffix_cons c rest), by rw [List.length_cons]; omega, given⟩
      simp only [scanFrom] at member
      split at member
      · next value after found =>
        rcases List.mem_cons.1 member with rfl | other
        · obtain ⟨place, given⟩ := located_eq_some.1 found
          rw [place]
          exact ⟨List.suffix_rfl, le_rfl, after, given⟩
        · exact later other
      · exact later member

theorem mem_findings {text : List Char} {finding : α × List Char}
    (member : finding ∈ findings read text) :
    finding.2 <:+ text ∧ ∃ after, read finding.2 = some (finding.1, after) :=
  have found := mem_scanFrom_located member
  ⟨found.1, found.2.2⟩

/-- At one place only one value is read. -/
theorem eq_of_place {text : List Char} {finding other : α × List Char}
    (member : finding ∈ findings read text) (otherMember : other ∈ findings read text)
    (same : finding.2 = other.2) : finding = other := by
  obtain ⟨-, after, given⟩ := mem_findings member
  obtain ⟨-, otherAfter, otherGiven⟩ := mem_findings otherMember
  rw [same, otherGiven] at given
  exact Prod.ext (Prod.mk.inj (Option.some.inj given)).1.symm same

/-- A place at which something can be read is covered by a match, unless it is passed over. -/
theorem exists_covers_scanFrom (consumes : Consumes read) {pending : Nat} {text place : List Char}
    (within : place <:+ text) (behind : place.length + pending ≤ text.length)
    (readable : read place ≠ none) :
    ∃ finding ∈ scanFrom (located read) pending text, Covers read finding.2 place := by
  obtain ⟨⟨own, ownAfter⟩, given⟩ := Option.ne_none_iff_exists'.1 readable
  have shorter := consumes place own ownAfter given
  induction text generalizing pending with
  | nil =>
    rw [List.suffix_nil.1 within] at shorter
    simp at shorter
  | cons c rest ih =>
    rw [List.length_cons] at behind
    cases pending with
    | succ pending =>
      have later : place <:+ rest := (List.suffix_cons_iff.1 within).resolve_left fun same => by
        rw [same, List.length_cons] at behind
        omega
      exact ih later (by omega)
    | zero =>
      cases found : read (c :: rest) with
      | none =>
        have later : place <:+ rest := (List.suffix_cons_iff.1 within).resolve_left fun same =>
          readable (same ▸ found)
        simp only [scanFrom, located_eq_none.2 found]
        exact ih later later.length_le
      | some reading =>
        obtain ⟨value, after⟩ := reading
        simp only [scanFrom, located_eq_some.2 ⟨rfl, found⟩]
        by_cases inside : after.length < place.length
        · exact ⟨_, List.mem_cons_self, within, value, after, found, inside⟩
        · -- The place is behind the match, and the scan comes to it later.
          have shorter := consumes _ _ _ found
          rw [List.length_cons] at shorter
          have later : place <:+ rest :=
            (List.suffix_cons_iff.1 within).resolve_left fun same => by
              rw [same, List.length_cons] at inside
              omega
          obtain ⟨finding, member, covers⟩ :
              ∃ finding ∈ scanFrom (located read) (rest.length - after.length) rest,
                Covers read finding.2 place := ih later (by omega)
          exact ⟨finding, List.mem_cons_of_mem _ member, covers⟩

/-- Every place at which something can be read is covered by a match of the scan. -/
theorem exists_covers (consumes : Consumes read) {text place : List Char}
    (within : place <:+ text) (readable : read place ≠ none) :
    ∃ finding ∈ findings read text, Covers read finding.2 place :=
  exists_covers_scanFrom consumes within within.length_le readable

/-- Of two matches the later one starts where the earlier one ends, or behind it. -/
theorem pairwise_scanFrom (consumes : Consumes read) (pending : Nat) (text : List Char) :
    (scanFrom (located read) pending text).Pairwise fun early late =>
      ∀ value after, read early.2 = some (value, after) → late.2.length ≤ after.length := by
  induction text generalizing pending with
  | nil => exact .nil
  | cons c rest ih =>
    cases pending with
    | succ pending => exact ih pending
    | zero =>
      cases found : read (c :: rest) with
      | none =>
        simp only [scanFrom, located_eq_none.2 found]
        exact ih 0
      | some reading =>
        obtain ⟨value, after⟩ := reading
        simp only [scanFrom, located_eq_some.2 ⟨rfl, found⟩]
        refine .cons (fun late member value' after' given => ?_) (ih _)
        obtain ⟨-, behind, -⟩ := mem_scanFrom_located member
        have shorter := consumes _ _ _ found
        obtain ⟨rfl, rfl⟩ : value = value' ∧ after = after' := by simpa [found] using given
        rw [List.length_cons] at shorter
        omega

theorem pairwise_findings (consumes : Consumes read) (text : List Char) :
    (findings read text).Pairwise fun early late =>
      ∀ value after, read early.2 = some (value, after) → late.2.length ≤ after.length :=
  pairwise_scanFrom consumes 0 text

/-- No match of a scan covers the start of another one. -/
theorem eq_of_covers (consumes : Consumes read) {text : List Char}
    {finding other : α × List Char} (member : finding ∈ findings read text)
    (otherMember : other ∈ findings read text) (covers : Covers read finding.2 other.2) :
    other = finding := by
  obtain ⟨within, value, after, given, inside⟩ := covers
  obtain ⟨-, otherAfter, otherGiven⟩ := mem_findings otherMember
  have ordered := pairwise_findings consumes text
  obtain ⟨front, back, shape⟩ := List.append_of_mem member
  rw [shape, List.pairwise_append, List.pairwise_cons] at ordered
  obtain ⟨-, ⟨behind, -⟩, before⟩ := ordered
  rw [shape] at otherMember
  rcases List.mem_append.1 otherMember with early | late
  · -- The other match would end in front of its own start.
    have shorter := consumes _ _ _ otherGiven
    have bound := before other early finding List.mem_cons_self _ _ otherGiven
    have longer := within.length_le
    omega
  · rcases List.mem_cons.1 late with same | late
    · exact same
    · have bound := behind other late _ _ given
      omega

theorem nodup_findings (consumes : Consumes read) (text : List Char) :
    (findings read text).Nodup := by
  refine (pairwise_findings consumes text).imp_of_mem fun {early late} member _ ends => ?_
  rintro rfl
  obtain ⟨-, after, given⟩ := mem_findings member
  have shorter := consumes _ _ _ given
  have bound := ends _ _ given
  omega

end Scan

/-- A scan finds no more than another one if each of its matches starts where the other scan has
a match, and starts alone there. -/
theorem length_findings_le {first : Matcher α} {second : Matcher β} (consumes : Consumes first)
    {text : List Char}
    (covered : ∀ finding ∈ findings first text, ∃ other ∈ findings second text,
      Covers second other.2 finding.2)
    (alone : ∀ other ∈ findings second text, ∀ finding ∈ findings first text,
      ∀ further ∈ findings first text, Covers second other.2 finding.2 →
        Covers second other.2 further.2 → finding = further) :
    (findings first text).length ≤ (findings second text).length := by
  classical
  calc (findings first text).length
      = (findings first text).toFinset.card :=
        (List.toFinset_card_of_nodup (nodup_findings consumes text)).symm
    _ ≤ (findings second text).toFinset.card := by
        refine Finset.card_le_card_of_forall_subsingleton
          (fun finding other => Covers second other.2 finding.2) ?_ ?_
        · intro finding member
          obtain ⟨other, otherMember, covers⟩ := covered finding (List.mem_toFinset.1 member)
          exact ⟨other, List.mem_toFinset.2 otherMember, covers⟩
        · rintro other otherMember finding ⟨member, covers⟩ further ⟨furtherMember, furtherCovers⟩
          exact alone other (List.mem_toFinset.1 otherMember) finding (List.mem_toFinset.1 member)
            further (List.mem_toFinset.1 furtherMember) covers furtherCovers
    _ ≤ (findings second text).length := List.toFinset_card_le _

end Text
end SchemaScaffold
