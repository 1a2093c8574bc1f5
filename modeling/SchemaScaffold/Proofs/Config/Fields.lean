import SchemaScaffold.Config.Reader
import SchemaScaffold.Proofs.Yaml.RoundTrip

/-!
# Fields of configurations

A configuration is written field by field, and each field that is read sets what it was written
from. Whichever of the fields are there, the others stay as they were.
-/

namespace SchemaScaffold
namespace Yaml
namespace Plain

/-- The digits of a number denote the number. -/
theorem unsigned?_decimal {limit number : Nat} (small : number < limit) :
    unsigned? limit (Text.decimal number) = some number := by
  have value := Text.ofDigits?_decimal number
  by_cases zero : number = 0
  · subst zero
    simp only [Text.decimal_zero] at value ⊢
    simp [unsigned?, dropPlus, hasSign, isZeroPadded, dropSign, announcedBase, value, small]
  · obtain ⟨first, rest, shape, noZero⟩ := Text.exists_decimal_eq_cons (Nat.pos_of_ne_zero zero)
    have isDigit : first.isDigit = true :=
      Text.isDigit_of_mem_decimal (shape ▸ List.mem_cons_self)
    have noPlus : first ≠ '+' := fun same => absurd (same ▸ isDigit) (by decide)
    have noMinus : first ≠ '-' := fun same => absurd (same ▸ isDigit) (by decide)
    rw [shape] at value ⊢
    have unsigned : dropPlus (first :: rest) = first :: rest := by
      unfold dropPlus
      split
      · next same => exact absurd (List.cons.inj same).1 noPlus
      · rfl
    have noSign : hasSign (first :: rest) = false := by
      simp [hasSign, noPlus, noMinus]
    have noPadding : isZeroPadded (first :: rest) = false := by
      simp only [isZeroPadded, dropSign, noSign, Bool.false_eq_true, ↓reduceIte]
      split
      · next same => exact absurd (List.cons.inj same).1 noZero
      · rfl
    have noBase : announcedBase (first :: rest) = none := by
      unfold announcedBase
      split
      · next same => exact absurd (List.cons.inj same).1 noZero
      · next same => exact absurd (List.cons.inj same).1 noZero
      · next same => exact absurd (List.cons.inj same).1 noZero
      · rfl
    simp [unsigned?, unsigned, noSign, noPadding, noBase, value, small]

end Plain

/-- Numbers in decimal digits are written as bare scalars. -/
theorem isWritable_natural (number : Nat) : IsWritable (.natural number) := by
  refine .number ?_
  rw [String.toList_ofList]
  exact isBare_of_isDigit (Text.decimal_ne_nil number)
    fun c member => Text.isDigit_of_mem_decimal member

end Yaml

namespace Config

open Yaml (Node Tree Mark Describes DescribesMembers IsWritable)

variable {α : Type}

theorem readText_of_describes {node : Node} {value : String}
    (describes : Describes node (.text value)) (position : Position) (expected : Expected) :
    readText position expected node = .ok value := by
  cases describes
  simp [readText, Position.target]

theorem readPort_of_describes {node : Node} {port : UInt16}
    (describes : Describes node (.natural port.toNat)) (position : Position) :
    readPort position node = .ok port := by
  have bound : port.toNat < 65536 := port.toNat_lt
  cases describes with
  | number place =>
    have known : Yaml.Plain.unsigned? (Nat.pow 2 64) (Text.decimal port.toNat) =
        some port.toNat :=
      Yaml.Plain.unsigned?_decimal (Nat.lt_trans bound (by decide))
    simp [readPort, Position.target, mayBeNumber, known, bound]

/-- A field of a record: its name, how its value is written, and how it is set. -/
structure Field (α : Type) where
  name : String
  document : Document
  set : α → α

/-- The member that a field is written as. -/
def Field.member (field : Field α) : String × Document :=
  (field.name, field.document)

/-- What was written for a field sets it, whatever was there. -/
def Field.IsSetBy (set : Setter α) (field : Field α) : Prop :=
  ∀ (position : Position) (node : Node) (value : α), Describes node field.document →
    set position field.name node value = some (.ok (field.set value))

/-- Fields of different names are set one after another. -/
theorem readEntries_of_describes {set : Setter α} {fields : List (Field α)}
    (each : ∀ field ∈ fields, field.IsSetBy set) (distinct : (fields.map (·.name)).Nodup)
    {seen : List String} (unseen : ∀ field ∈ fields, field.name ∉ seen)
    {entries : List (Node × Node)} (describes : DescribesMembers entries (fields.map (·.member)))
    (position : Position) (place : Mark) (value : α) :
    readEntries position place set seen value entries =
      .ok (fields.foldl (fun value field => field.set value) value) := by
  induction fields generalizing seen entries value with
  | nil =>
    cases describes
    rfl
  | cons field fields ih =>
    obtain ⟨own, each⟩ := List.forall_mem_cons.1 each
    obtain ⟨fresh, unseen⟩ := List.forall_mem_cons.1 unseen
    obtain ⟨apart, distinct⟩ := List.nodup_cons.1 distinct
    cases describes with
    | cons keyPlace _ first others =>
      have unseenStill : ∀ other ∈ fields, other.name ∉ field.name :: seen := by
        intro other member
        rw [List.mem_cons, not_or]
        exact ⟨fun same => apart (List.mem_map.2 ⟨other, member, same⟩), unseen other member⟩
      have name (position : Position) : readText position .field
          (.scalar keyPlace (Yaml.Style.ofText field.name.toList) none field.name.toList) =
          .ok field.name := by
        simp [readText, Position.target]
      have later := ih each distinct unseenStill others (field.set value)
      rw [readEntries]
      simp only [name, bind, Except.bind, own _ _ value first]
      simp [fresh, later]

/-- A record with fields of different names is read field by field. -/
theorem readRecord_of_describes {set : Setter α} {fields : List (Field α)}
    (each : ∀ field ∈ fields, field.IsSetBy set) (distinct : (fields.map (·.name)).Nodup)
    {node : Node} (describes : Describes node (.record (fields.map (·.member))))
    (position : Position) (expected : Expected) (value : α) :
    readRecord position expected set value node =
      .ok (fields.foldl (fun value field => field.set value) value) := by
  cases describes with
  | record place members =>
    exact readEntries_of_describes each distinct (by simp) members position place value

/-- Of a record with only some of its fields, these are read. -/
theorem readRecord_of_filter {set : Setter α} {fields : List (Field α)}
    (each : ∀ field ∈ fields, field.IsSetBy set) (distinct : (fields.map (·.name)).Nodup)
    (keep : String → Bool) {node : Node}
    (describes : Describes node (.record ((fields.map (·.member)).filter (keep ·.1))))
    (position : Position) (expected : Expected) (value : α) :
    readRecord position expected set value node =
      .ok (fields.foldl (fun value field => if keep field.name then field.set value else value)
        value) := by
  have kept : (fields.map (·.member)).filter (keep ·.1) =
      (fields.filter (keep ·.name)).map (·.member) := by
    rw [List.filter_map]
    rfl
  rw [kept] at describes
  rw [readRecord_of_describes (fun field member => each field (List.mem_filter.1 member).1)
    ((List.filter_sublist.map _).nodup distinct) describes, List.foldl_filter]

/-- The fields of the texts about the interface. -/
def apiFields (api : ApiSettings) : List (Field ApiSettings) :=
  [⟨"title", .text api.title, ({ · with title := api.title })⟩,
    ⟨"version", .text api.version, ({ · with version := api.version })⟩,
    ⟨"description", .text api.description, ({ · with description := api.description })⟩,
    ⟨"base_url", .text api.baseUrl, ({ · with baseUrl := api.baseUrl })⟩,
    ⟨"collection_name", .text api.collectionName,
      ({ · with collectionName := api.collectionName })⟩,
    ⟨"collection_description", .text api.collectionDescription,
      ({ · with collectionDescription := api.collectionDescription })⟩]

/-- The fields of the values of the environment. -/
def envFields (env : EnvSettings) : List (Field EnvSettings) :=
  [⟨"port", .natural env.port.toNat, ({ · with port := env.port })⟩,
    ⟨"db_host", .text env.dbHost, ({ · with dbHost := env.dbHost })⟩,
    ⟨"db_port", .natural env.dbPort.toNat, ({ · with dbPort := env.dbPort })⟩,
    ⟨"db_user", .text env.dbUser, ({ · with dbUser := env.dbUser })⟩,
    ⟨"db_password", .text env.dbPassword, ({ · with dbPassword := env.dbPassword })⟩]

theorem apiFields_isSetBy (api : ApiSettings) :
    ∀ field ∈ apiFields api, field.IsSetBy setApi := by
  simp only [apiFields, List.forall_mem_cons]
  refine ⟨?_, ?_, ?_, ?_, ?_, ?_, by simp⟩ <;> intro position node value describes <;>
    simp only [setApi, readText_of_describes describes] <;> rfl

theorem envFields_isSetBy (env : EnvSettings) :
    ∀ field ∈ envFields env, field.IsSetBy setEnv := by
  simp only [envFields, List.forall_mem_cons]
  refine ⟨?_, ?_, ?_, ?_, ?_, by simp⟩ <;> intro position node value describes
  · simp only [setEnv, readPort_of_describes describes]
    rfl
  · simp only [setEnv, readText_of_describes describes]
    rfl
  · simp only [setEnv, readPort_of_describes describes]
    rfl
  · simp only [setEnv, readText_of_describes describes]
    rfl
  · simp only [setEnv, readText_of_describes describes]
    rfl

end Config
end SchemaScaffold
