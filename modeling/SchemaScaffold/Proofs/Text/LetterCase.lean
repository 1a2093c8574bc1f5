import SchemaScaffold.Text.LetterCase

/-!
# Characters in upper case

The upper case of a character has one character or more. They are in upper case themselves, so that
they stay as they are, and none is an underscore unless the character is one: no code point to which
the tables lead is one from which they lead on.
-/

namespace SchemaScaffold
namespace Text
namespace LetterCase

/-- Code points as the bits of a number, so that whole tables are compared at once. -/
def bits (codes : List Nat) : Nat :=
  codes.foldr (fun code set => set ||| 1 <<< code) 0

theorem testBit_bits {codes : List Nat} {code : Nat} :
    (bits codes).testBit code = true ↔ code ∈ codes := by
  induction codes with
  | nil => simp [bits]
  | cons first rest ih =>
    have shape : bits (first :: rest) = bits rest ||| 1 <<< first := rfl
    rw [shape, Nat.testBit_or, Bool.or_eq_true, ih, Nat.one_shiftLeft, Nat.testBit_two_pow,
      decide_eq_true_eq, List.mem_cons, or_comm, eq_comm]

theorem not_mem_of_bits {first second : List Nat} (apart : bits first &&& bits second = 0)
    {code : Nat} (member : code ∈ first) : code ∉ second := by
  intro both
  have common : (bits first &&& bits second).testBit code = true := by
    rw [Nat.testBit_and, testBit_bits.2 member, testBit_bits.2 both]
    rfl
  rw [apart] at common
  simp at common

/-- The code points of a range. -/
def CaseRange.codes (range : CaseRange) : List Nat :=
  (List.range ((range.last - range.first) / range.step + 1)).map fun index =>
    range.first + index * range.step

theorem mem_codes_of_covers {range : CaseRange} {code : Nat} (covered : range.covers code = true) :
    code ∈ range.codes := by
  simp only [CaseRange.covers, Bool.and_eq_true, decide_eq_true_eq, beq_iff_eq] at covered
  obtain ⟨⟨fromFirst, toLast⟩, onStep⟩ := covered
  have bound : (code - range.first) / range.step ≤ (range.last - range.first) / range.step :=
    Nat.div_le_div_right (by omega)
  refine List.mem_map.2 ⟨(code - range.first) / range.step, by simpa [Nat.lt_succ_iff], ?_⟩
  rw [Nat.div_mul_cancel (Nat.dvd_of_mod_eq_zero onStep)]
  omega

/-- The underscore and the code points with an upper case other than themselves. -/
def smallCodes : List Nat :=
  0x5F :: (List.range 26).map (· + 0x61) ++ upperExpansions.map (·.1) ++
    upperRanges.flatMap (·.codes)

/-- The code points to which upper case leads. -/
def capitalCodes : List Nat :=
  (List.range 26).map (· + 0x41) ++ upperExpansions.flatMap (·.2) ++
    upperRanges.flatMap fun range => range.codes.map fun code => (↑code + range.shift).toNat

theorem smallCodes_apart : bits capitalCodes &&& bits smallCodes = 0 := by
  decide +kernel

theorem isValidChar_of_mem_capitalCodes : ∀ code ∈ capitalCodes, code.isValidChar := by
  decide +kernel

theorem expansions_ne_nil : ∀ entry ∈ upperExpansions, entry.2 ≠ [] := by
  decide

/-- What the tables do not lead on from stays as it is. -/
theorem upper_of_not_mem {c : Char} (other : c.toNat ∉ smallCodes) : upper c = [c] := by
  simp only [smallCodes, List.mem_append, List.mem_cons, not_or, List.mem_flatMap, not_exists,
    not_and] at other
  obtain ⟨⟨⟨-, noLetter⟩, noEntry⟩, noRange⟩ := other
  unfold upper
  split
  · have kept : c.toUpper = c := by
      refine dif_neg fun ⟨fromA, toZ⟩ => noLetter (List.mem_map.2 ⟨c.toNat - 0x61, ?_, ?_⟩)
      · have bound : c.toNat ≤ 122 := UInt32.le_iff_toNat_le.1 toZ
        exact List.mem_range.2 (by omega)
      · have bound : 97 ≤ c.toNat := UInt32.le_iff_toNat_le.1 fromA
        omega
    rw [kept]
  · have unlisted : upperExpansions.lookup c.toNat = none :=
      List.lookup_eq_none_iff.2 fun entry isEntry =>
        bne_iff_ne.2 fun same => noEntry (List.mem_map.2 ⟨entry, isEntry, same.symm⟩)
    have uncovered : upperRanges.find? (·.covers c.toNat) = none :=
      List.find?_eq_none.2 fun range isRange covered =>
        noRange range isRange (mem_codes_of_covers covered)
    rw [mapped, unlisted]
    dsimp only
    rw [shifted, uncovered]
    dsimp only
    rw [Char.ofNat_toNat]

/-- A character is its own upper case, or it is exchanged for capitals of the tables. -/
theorem upper_cases (c : Char) : upper c = [c] ∨ upper c ≠ [] ∧
    ∀ capital ∈ upper c, ∃ code ∈ capitalCodes, capital = Char.ofNat code := by
  by_cases ascii : c.toNat < 0x80
  -- ASCII is looked at character by character, and the rest entry by entry.
  · have letters : ∀ code < 0x80, upper (Char.ofNat code) = [Char.ofNat code] ∨
        ∃ index < 26, upper (Char.ofNat code) = [Char.ofNat (index + 0x41)] := by
      decide
    rcases letters c.toNat ascii with own | ⟨index, bound, image⟩
    · exact .inl (by simpa only [Char.ofNat_toNat] using own)
    · rw [Char.ofNat_toNat] at image
      have isCapital : index + 0x41 ∈ capitalCodes :=
        List.mem_append_left _ (List.mem_append_left _
          (List.mem_map.2 ⟨index, List.mem_range.2 bound, rfl⟩))
      exact .inr ⟨by simp [image], fun capital member =>
        ⟨index + 0x41, isCapital, by simpa [image] using member⟩⟩
  rw [upper, if_neg ascii, mapped]
  split
  · next codes found =>
    obtain ⟨before, after, shape, -⟩ := List.lookup_eq_some_iff.1 found
    have isEntry : (c.toNat, codes) ∈ upperExpansions := by simp [shape]
    refine .inr ⟨by simpa using expansions_ne_nil _ isEntry, fun capital member => ?_⟩
    obtain ⟨code, isCode, rfl⟩ := List.mem_map.1 member
    refine ⟨code, List.mem_append_left _ (List.mem_append_right _ ?_), rfl⟩
    exact List.mem_flatMap.2 ⟨_, isEntry, isCode⟩
  · rw [shifted]
    split
    · next range found =>
      have covered : range.covers c.toNat = true := by simpa using List.find?_some found
      refine .inr ⟨List.cons_ne_nil _ _, fun capital member => ?_⟩
      refine ⟨_, List.mem_append_right _ ?_, List.mem_singleton.1 member⟩
      exact List.mem_flatMap.2 ⟨range, List.mem_of_find?_eq_some found,
        List.mem_map_of_mem (mem_codes_of_covers covered)⟩
    · exact .inl (by rw [Char.ofNat_toNat])

theorem upper_ne_nil (c : Char) : upper c ≠ [] := by
  rcases upper_cases c with own | ⟨given, -⟩
  · simp [own]
  · exact given

theorem not_mem_smallCodes_of_capital {code : Nat} (isCapital : code ∈ capitalCodes) :
    (Char.ofNat code).toNat ∉ smallCodes := by
  have valid := isValidChar_of_mem_capitalCodes code isCapital
  have same : (Char.ofNat code).toNat = code := by
    rw [Char.ofNat, dif_pos valid]
    rfl
  rw [same]
  exact not_mem_of_bits smallCodes_apart isCapital

/-- What is in upper case stays as it is. -/
theorem upper_of_mem_upper {c capital : Char} (image : capital ∈ upper c) :
    upper capital = [capital] := by
  rcases upper_cases c with own | ⟨-, capitals⟩
  · obtain rfl : capital = c := by simpa [own] using image
    exact own
  · obtain ⟨code, isCapital, rfl⟩ := capitals capital image
    exact upper_of_not_mem (not_mem_smallCodes_of_capital isCapital)

/-- Only the underscore is exchanged for an underscore. -/
theorem eq_underscore_of_mem_upper {c : Char} (image : '_' ∈ upper c) : c = '_' := by
  rcases upper_cases c with own | ⟨-, capitals⟩
  · simpa [own, eq_comm] using image
  · obtain ⟨code, isCapital, same⟩ := capitals '_' image
    have other := not_mem_smallCodes_of_capital isCapital
    rw [← same] at other
    exact absurd List.mem_cons_self other

end LetterCase
end Text
end SchemaScaffold
