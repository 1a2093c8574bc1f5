import SchemaScaffold.Proofs.Schema.JsonForm

/-!
# Variants of schemas in JSON

The reader of schemas takes other texts for the same schema: blanks do not count, members may stand
in any order and among others, and a structure may be written as a list. It takes no text in which a
member is missing or comes twice.
-/

namespace SchemaScaffold

open Json (Value Writes WritesKey IsSpace quote)

/-- The places in the value of a schema, told apart by what is read there. -/
inductive Place where
  | schema
  | tables
  | table
  | columns
  | column
  /-- The value of a field, or a place that is not read. -/
  | leaf
deriving DecidableEq, Repr

namespace Place

/-- The fields of the structure at a place, in order. -/
def keys : Place → List String
  | schema => ["database", "tables"]
  | table => ["name", "columns"]
  | column => ["name", "raw_definition", "is_auto_increment", "is_nullable", "has_default"]
  | _ => []

/-- The fields that may be left out. -/
def optional : Place → List String
  | schema => ["database"]
  | _ => []

/-- The place of a member. -/
def member : Place → String → Place
  | schema, "tables" => tables
  | table, "columns" => columns
  | _, _ => leaf

/-- The place of an item. -/
def item : Place → Place
  | tables => table
  | columns => column
  | _ => leaf

end Place

/-- Values without parts. -/
def Json.Value.isScalar : Value → Bool
  | .list _ | .record _ => false
  | _ => true

/-- Values that say the same at a place: members may be permuted, members of other names may be
added, a database that is not there may be null, and a structure may be the list of its fields. -/
inductive Varies : Place → Value → Value → Prop
  | refl (place : Place) (value : Value) : Varies place value value
  | symm {place : Place} {value other : Value} (varies : Varies place value other) :
    Varies place other value
  | trans {place : Place} {value other third : Value} (first : Varies place value other)
    (second : Varies place other third) : Varies place value third
  | permuted {place : Place} {members others : List (Option String × Value)}
    (same : members.Perm others) : Varies place (.record members) (.record others)
  | added {place : Place} {key : String} {value : Value} {members : List (Option String × Value)}
    (unknown : key ∉ place.keys) (scalar : value.isScalar = true) :
    Varies place (.record members) (.record ((some key, value) :: members))
  | nullDatabase {members : List (Option String × Value)}
    (absent : some "database" ∉ members.map (·.1)) :
    Varies .schema (.record members) (.record ((some "database", .null) :: members))
  | array {place : Place} {members : List (Option String × Value)} (isStructure : place.keys ≠ [])
    (all : members.map (·.1) = place.keys.map some) :
    Varies place (.record members) (.list (members.map (·.2)))
  | member {place : Place} {key : String} {value other : Value}
    {before after : List (Option String × Value)} (inside : Varies (place.member key) value other) :
    Varies place (.record (before ++ (some key, value) :: after))
      (.record (before ++ (some key, other) :: after))
  | item {place : Place} {value other : Value} {before after : List Value}
    (isList : place.keys = []) (inside : Varies place.item value other) :
    Varies place (.list (before ++ value :: after)) (.list (before ++ other :: after))

/-- The tables in a value. -/
def Json.Value.tables? (value : Value) : Option (List Table) :=
  value.asList?.bind (·.mapM Table.ofJson?)

/-- The columns in a value. -/
def Json.Value.columns? (value : Value) : Option (List Column) :=
  value.asList?.bind (·.mapM Column.ofJson?)

/-- The text in a value, the truth value in it, and the text that may be null. -/
def Json.Value.leaf (value : Value) : Option String × Option Bool × Option (Option String) :=
  (value.asText?, value.asBool?, value.asOptionalText?)

/-- Values that are read alike at a place. -/
def ReadAlike : Place → Value → Value → Prop
  | .schema, value, other => Schema.ofJson? value = Schema.ofJson? other
  | .tables, value, other => value.tables? = other.tables?
  | .table, value, other => Table.ofJson? value = Table.ofJson? other
  | .columns, value, other => value.columns? = other.columns?
  | .column, value, other => Column.ofJson? value = Column.ofJson? other
  | .leaf, value, other => value.leaf = other.leaf

namespace ReadAlike

variable {place : Place} {value other third : Value}

theorem refl (place : Place) (value : Value) : ReadAlike place value value := by
  cases place <;> exact rfl

theorem symm (alike : ReadAlike place value other) : ReadAlike place other value := by
  cases place <;> exact Eq.symm alike

theorem trans (first : ReadAlike place value other) (second : ReadAlike place other third) :
    ReadAlike place value third := by
  cases place <;> exact Eq.trans first second

end ReadAlike

/-- What is found for a field is read alike. -/
inductive FoundAlike : Place → String → Option Value → Option Value → Prop
  | same {place : Place} {key : String} (found : Option Value) : FoundAlike place key found found
  | read {place : Place} {key : String} {value other : Value}
    (alike : ReadAlike (place.member key) value other) :
    FoundAlike place key (some value) (some other)
  | absent : FoundAlike .schema "database" none (some .null)

/-- Where fields are looked for, both times it fails, or what is found is read alike. -/
def FieldsAlike (place : Place) (keys : List String) (fields others : Option (List (Option Value))) :
    Prop :=
  fields = none ∧ others = none ∨
    ∃ pairs : List (Option Value × Option Value), fields = some (pairs.map (·.1)) ∧
      others = some (pairs.map (·.2)) ∧
      List.Forall₂ (fun key pair => FoundAlike place key pair.1 pair.2) keys pairs

/-- Members that are found alike, key by key. -/
def MembersAlike (place : Place) (key : String) (members others : List (Option String × Value)) :
    Prop :=
  Value.uniqueMember members key = none ∧ Value.uniqueMember others key = none ∨
    ∃ found also, Value.uniqueMember members key = some found ∧
      Value.uniqueMember others key = some also ∧ FoundAlike place key found also

theorem membersAlike_of_eq {place : Place} {key : String}
    {members others : List (Option String × Value)}
    (same : Value.uniqueMember members key = Value.uniqueMember others key) :
    MembersAlike place key members others := by
  cases found : Value.uniqueMember members key with
  | none => exact .inl ⟨found, same ▸ found⟩
  | some value => exact .inr ⟨value, value, found, same ▸ found, .same value⟩

theorem fieldsAlike_record {place : Place} {members others : List (Option String × Value)}
    (whole : members.all (·.1.isSome) = others.all (·.1.isSome))
    (each : ∀ key ∈ place.keys, MembersAlike place key members others) :
    FieldsAlike place place.keys ((Value.record members).fields place.keys)
      ((Value.record others).fields place.keys) := by
  rw [Value.fields, Value.fields, whole]
  by_cases all : others.all (·.1.isSome) = true
  · rw [if_pos all, if_pos all]
    generalize place.keys = keys at each
    induction keys with
    | nil => exact .inr ⟨[], rfl, rfl, .nil⟩
    | cons key keys ih =>
      obtain ⟨own, rest⟩ := List.forall_mem_cons.1 each
      rw [List.mapM_cons, List.mapM_cons]
      rcases own with ⟨none, alsoNone⟩ | ⟨found, also, isFound, isAlso, alike⟩
      · exact .inl (by simp [none, alsoNone])
      · rcases ih rest with ⟨none, alsoNone⟩ | ⟨pairs, first, second, pairwise⟩
        · exact .inl (by simp [none, alsoNone])
        · exact .inr ⟨(found, also) :: pairs, by simp [isFound, first], by simp [isAlso, second],
            .cons alike pairwise⟩
  · rw [if_neg all, if_neg all]
    exact .inl ⟨rfl, rfl⟩

/-- What is found for a field is read by any reader that takes alike what is read alike. -/
theorem FoundAlike.bind_eq {α : Type} {place : Place} {key : String} {found also : Option Value}
    {read : Value → Option α} (alike : FoundAlike place key found also) (other : key ≠ "database")
    (reads : ∀ {value other : Value}, ReadAlike (place.member key) value other →
      read value = read other) :
    found.bind read = also.bind read := by
  cases alike with
  | same => rfl
  | read alike => exact reads alike
  | absent => exact absurd rfl other

theorem Column.ofJson?_of_fields {value : Value}
    {name definition auto nullable default : Option Value}
    (fields : value.fields Place.column.keys = some [name, definition, auto, nullable, default]) :
    Column.ofJson? value = (do
      return ⟨← name.bind Value.asText?, ← definition.bind Value.asText?, ← auto.bind Value.asBool?,
        ← nullable.bind Value.asBool?, ← default.bind Value.asBool?⟩) := by
  rw [Place.keys] at fields
  rw [Column.ofJson?, fields]
  cases name <;> cases definition <;> cases auto <;> cases nullable <;> cases default <;> simp

theorem Table.ofJson?_of_fields {value : Value} {name columns : Option Value}
    (fields : value.fields Place.table.keys = some [name, columns]) :
    Table.ofJson? value = (do
      return ⟨← name.bind Value.asText?, ← columns.bind Value.columns?⟩) := by
  rw [Place.keys] at fields
  rw [Table.ofJson?, fields]
  cases name <;> cases columns <;> simp [Value.columns?, Option.bind_assoc]

theorem Schema.ofJson?_of_fields {value : Value} {database tables : Option Value}
    (fields : value.fields Place.schema.keys = some [database, tables]) :
    Schema.ofJson? value = (do
      return ⟨← (database.map Value.asOptionalText?).getD (some none),
        ← tables.bind Value.tables?⟩) := by
  rw [Place.keys] at fields
  rw [Schema.ofJson?, fields]
  cases database <;> cases tables <;> simp [Value.tables?, Option.bind_assoc]

/-- A text that may be null is read alike, and null is read like no text. -/
theorem FoundAlike.optionalText_eq {found also : Option Value}
    (alike : FoundAlike .schema "database" found also) :
    (found.map Value.asOptionalText?).getD (some none) =
      (also.map Value.asOptionalText?).getD (some none) := by
  cases alike with
  | same => rfl
  | read alike => exact congrArg (·.2.2) alike
  | absent => rfl

/-- A structure is read by its fields. -/
theorem readAlike_of_fields {place : Place} {value other : Value} (isStructure : place.keys ≠ [])
    (alike : FieldsAlike place place.keys (value.fields place.keys) (other.fields place.keys)) :
    ReadAlike place value other := by
  have text {value other : Value} (alike : ReadAlike .leaf value other) :
      value.asText? = other.asText? := congrArg (·.1) alike
  have flag {value other : Value} (alike : ReadAlike .leaf value other) :
      value.asBool? = other.asBool? := congrArg (·.2.1) alike
  rcases alike with ⟨none, alsoNone⟩ | ⟨pairs, first, second, each⟩
  · cases place with
    | tables | columns | leaf => exact absurd rfl isStructure
    | schema | table | column =>
      rw [Place.keys] at none alsoNone
      simp [ReadAlike, Schema.ofJson?, Table.ofJson?, Column.ofJson?, none, alsoNone]
  · cases place with
    | tables | columns | leaf => exact absurd rfl isStructure
    | schema =>
      simp only [Place.keys, List.forall₂_cons_left_iff, List.forall₂_nil_left_iff] at each
      obtain ⟨database, _, names, ⟨tables, _, tablesAlike, rfl, rfl⟩, rfl⟩ := each
      rw [ReadAlike, Schema.ofJson?_of_fields first, Schema.ofJson?_of_fields second,
        names.optionalText_eq, tablesAlike.bind_eq (by decide) fun alike => alike]
    | table =>
      simp only [Place.keys, List.forall₂_cons_left_iff, List.forall₂_nil_left_iff] at each
      obtain ⟨name, _, nameAlike, ⟨columns, _, columnsAlike, rfl, rfl⟩, rfl⟩ := each
      rw [ReadAlike, Table.ofJson?_of_fields first, Table.ofJson?_of_fields second,
        nameAlike.bind_eq (by decide) text, columnsAlike.bind_eq (by decide) fun alike => alike]
    | column =>
      simp only [Place.keys, List.forall₂_cons_left_iff, List.forall₂_nil_left_iff] at each
      obtain ⟨name, _, nameAlike, ⟨definition, _, definitionAlike, ⟨auto, _, autoAlike,
        ⟨nullable, _, nullableAlike, ⟨default, _, defaultAlike, rfl, rfl⟩, rfl⟩, rfl⟩, rfl⟩,
        rfl⟩ := each
      rw [ReadAlike, Column.ofJson?_of_fields first, Column.ofJson?_of_fields second,
        nameAlike.bind_eq (by decide) text, definitionAlike.bind_eq (by decide) text,
        autoAlike.bind_eq (by decide) flag, nullableAlike.bind_eq (by decide) flag,
        defaultAlike.bind_eq (by decide) flag]

/-- A structure with the same fields is read alike. -/
theorem readAlike_of_fields_eq {place : Place} {value other : Value} (isStructure : place.keys ≠ [])
    (same : value.fields place.keys = other.fields place.keys) : ReadAlike place value other := by
  cases place with
  | tables | columns | leaf => exact absurd rfl isStructure
  | schema | table | column =>
    rw [Place.keys] at same
    simp only [ReadAlike, Schema.ofJson?, Table.ofJson?, Column.ofJson?, same]

/-- Where no structure is expected, no record is read. -/
theorem readAlike_record {place : Place} (isList : place.keys = [])
    (members others : List (Option String × Value)) :
    ReadAlike place (.record members) (.record others) := by
  cases place with
  | tables | columns | leaf => exact rfl
  | schema | table | column => simp [Place.keys] at isList

theorem readAlike_list {place : Place} {value other : Value} {before after : List Value}
    (isList : place.keys = []) (alike : ReadAlike place.item value other) :
    ReadAlike place (.list (before ++ value :: after)) (.list (before ++ other :: after)) := by
  cases place with
  | schema | table | column => simp [Place.keys] at isList
  | leaf => exact rfl
  | tables =>
    have same : Table.ofJson? value = Table.ofJson? other := alike
    simp [ReadAlike, Value.tables?, Value.asList?, same]
  | columns =>
    have same : Column.ofJson? value = Column.ofJson? other := alike
    simp [ReadAlike, Value.columns?, Value.asList?, same]

theorem Place.nodup_keys (place : Place) : place.keys.Nodup := by
  cases place <;> decide

/-- The values of members that have all keys in order are found in order. -/
theorem map_lookup_of_nodup {members : List (Option String × Value)} {keys : List String}
    (all : members.map (·.1) = keys.map some) (distinct : keys.Nodup) :
    (keys.map fun key => members.lookup (some key)) = (members.map (·.2)).map some := by
  induction keys generalizing members with
  | nil =>
    rw [List.map_nil, List.map_eq_nil_iff] at all
    simp [all]
  | cons key keys ih =>
    obtain ⟨member, members, rfl⟩ := List.exists_cons_of_ne_nil
      (show members ≠ [] by rintro rfl; simp at all)
    obtain ⟨name, value⟩ := member
    rw [List.map_cons, List.map_cons, List.cons.injEq] at all
    obtain ⟨rfl, all⟩ := all
    obtain ⟨absent, distinct⟩ := List.nodup_cons.1 distinct
    rw [List.map_cons, List.map_cons, List.map_cons, ← ih all distinct]
    refine congr (congrArg _ (by simp)) (List.map_congr_left fun other isKey => ?_)
    have apart : (some other == some key) = false := by
      refine beq_false_of_ne fun same => absent ?_
      rwa [← Option.some.inj same]
    simp only [List.lookup_cons, apart]

/-- A list of all fields in order is read like the record of them. -/
theorem readAlike_array {place : Place} {members : List (Option String × Value)}
    (isStructure : place.keys ≠ []) (all : members.map (·.1) = place.keys.map some) :
    ReadAlike place (.record members) (.list (members.map (·.2))) := by
  have length : members.length = place.keys.length := by
    simpa using congrArg List.length all
  have whole : members.all (·.1.isSome) = true := by
    refine List.all_eq_true.2 fun member isMember => ?_
    have isKey : member.1 ∈ place.keys.map some := all ▸ List.mem_map_of_mem isMember
    obtain ⟨key, -, same⟩ := List.mem_map.1 isKey
    simp [← same]
  have distinct : (members.map (·.1)).Nodup := by
    rw [all]
    exact List.Nodup.map (fun _ _ => Option.some.inj) place.nodup_keys
  refine readAlike_of_fields_eq isStructure ?_
  rw [Value.fields, Value.fields, if_pos whole, List.length_map, if_pos (Nat.le_of_eq length),
    funext (Value.uniqueMember_of_nodup distinct)]
  rw [length, Nat.sub_self, List.replicate_zero, List.append_nil,
    ← map_lookup_of_nodup all place.nodup_keys]
  exact List.mapM_pure

/-- What says the same is read alike. -/
theorem readAlike_of_varies {place : Place} {value other : Value}
    (varies : Varies place value other) : ReadAlike place value other := by
  induction varies with
  | refl place value => exact .refl place value
  | symm _ ih => exact ih.symm
  | trans _ _ first second => exact first.trans second
  | @permuted place members others same =>
    by_cases isList : place.keys = []
    · exact readAlike_record isList members others
    · refine readAlike_of_fields isList (fieldsAlike_record ?_ fun key _ => ?_)
      · exact same.all_eq
      · exact membersAlike_of_eq (Value.uniqueMember_perm same key)
  | @added place key value members unknown scalar =>
    by_cases isList : place.keys = []
    · exact readAlike_record isList _ _
    · refine readAlike_of_fields isList (fieldsAlike_record (by simp) fun name isKey => ?_)
      have other : name ≠ key := fun same => unknown (same ▸ isKey)
      exact membersAlike_of_eq (Value.uniqueMember_cons_of_ne value other).symm
  | @nullDatabase members absent =>
    refine readAlike_of_fields (by decide) (fieldsAlike_record (by simp) fun name isKey => ?_)
    by_cases same : name = "database"
    · subst same
      exact .inr ⟨none, some .null, Value.uniqueMember_of_not_mem absent,
        Value.uniqueMember_cons_self .null absent, .absent⟩
    · exact membersAlike_of_eq (Value.uniqueMember_cons_of_ne _ same).symm
  | array isStructure all => exact readAlike_array isStructure all
  | @member place key value other before after _ ih =>
    by_cases isList : place.keys = []
    · exact readAlike_record isList _ _
    · refine readAlike_of_fields isList (fieldsAlike_record (by simp) fun name _ => ?_)
      rcases @Value.uniqueMember_replace name key value other before after with
        same | ⟨rfl, found, also⟩
      · exact membersAlike_of_eq same
      · exact .inr ⟨some value, some other, found, also, .read ih⟩
  | item isList _ ih => exact readAlike_list isList ih

/-! ## Faults -/

/-- Values that are no schema, or that have a part which is not what its place needs: a field comes
twice, or one that may not be left out is missing. -/
inductive IsFaulty : Place → Value → Prop
  | repeated {place : Place} {key : String} {members : List (Option String × Value)}
    (isKey : key ∈ place.keys) (twice : 2 ≤ (members.map (·.1)).count (some key)) :
    IsFaulty place (.record members)
  | missing {place : Place} {key : String} {members : List (Option String × Value)}
    (isKey : key ∈ place.keys) (needed : key ∉ place.optional)
    (absent : some key ∉ members.map (·.1)) : IsFaulty place (.record members)
  | short {place : Place} {items : List Value} (short : items.length < place.keys.length) :
    IsFaulty place (.list items)
  | member {place : Place} {key : String} {value : Value} {members : List (Option String × Value)}
    (isKey : key ∈ place.keys) (isMember : (some key, value) ∈ members)
    (inside : IsFaulty (place.member key) value) : IsFaulty place (.record members)
  | field {place : Place} {key : String} {value : Value} {items : List Value}
    (isField : (key, value) ∈ place.keys.zip items) (inside : IsFaulty (place.member key) value) :
    IsFaulty place (.list items)
  | item {place : Place} {value : Value} {items : List Value} (isList : place.keys = [])
    (isItem : value ∈ items) (inside : IsFaulty place.item value) : IsFaulty place (.list items)

/-- Values of which nothing is read at a place. -/
def Unread : Place → Value → Prop
  | .schema, value => Schema.ofJson? value = none
  | .tables, value => value.tables? = none
  | .table, value => Table.ofJson? value = none
  | .columns, value => value.columns? = none
  | .column, value => Column.ofJson? value = none
  | .leaf, _ => False

/-- What is found for a field is not enough. -/
inductive Lacking : Place → String → Option Value → Prop
  | missing {place : Place} {key : String} (needed : key ∉ place.optional) : Lacking place key none
  | unread {place : Place} {key : String} {value : Value} (unread : Unread (place.member key) value) :
    Lacking place key (some value)

theorem unread_of_fields {place : Place} {value : Value} (isStructure : place.keys ≠ [])
    (none : value.fields place.keys = none) : Unread place value := by
  cases place with
  | tables | columns | leaf => exact absurd rfl isStructure
  | schema | table | column =>
    rw [Place.keys] at none
    simp [Unread, Schema.ofJson?, Table.ofJson?, Column.ofJson?, none]

/-- No reader that fails where nothing is read takes what is not enough. -/
theorem Lacking.bind_eq_none {α : Type} {place : Place} {key : String} {item : Option Value}
    {read : Value → Option α} (lacking : Lacking place key item)
    (reads : ∀ {value : Value}, Unread (place.member key) value → read value = none) :
    item.bind read = none := by
  cases lacking with
  | missing => rfl
  | unread unread => exact reads unread

/-- A database is never lacking. -/
theorem not_lacking_database {item : Option Value} : ¬ Lacking .schema "database" item := by
  intro lacking
  cases lacking with
  | missing needed => exact needed (by decide)
  | unread unread => exact unread.elim

/-- Nothing is read of a structure if what is found for one of its fields is not enough. -/
theorem unread_of_lacking {place : Place} {value : Value} {found : List (Option Value)}
    (fields : value.fields place.keys = some found) (length : found.length = place.keys.length)
    {key : String} {item : Option Value} (isField : (key, item) ∈ place.keys.zip found)
    (lacking : Lacking place key item) : Unread place value := by
  cases place with
  | tables | columns | leaf => simp [Place.keys] at isField
  | schema =>
    match found, length with
    | [database, tables], _ =>
      simp only [Place.keys, List.zip_cons_cons, List.zip_nil_right, List.mem_cons,
        List.not_mem_nil, or_false, Prod.mk.injEq] at isField
      rw [Unread, Schema.ofJson?_of_fields fields]
      rcases isField with ⟨rfl, rfl⟩ | ⟨rfl, rfl⟩
      · exact absurd lacking not_lacking_database
      · have none : item.bind Value.tables? = none := lacking.bind_eq_none fun unread => unread
        simp [none]
  | table =>
    match found, length with
    | [name, columns], _ =>
      simp only [Place.keys, List.zip_cons_cons, List.zip_nil_right, List.mem_cons,
        List.not_mem_nil, or_false, Prod.mk.injEq] at isField
      rw [Unread, Table.ofJson?_of_fields fields]
      rcases isField with ⟨rfl, rfl⟩ | ⟨rfl, rfl⟩
      · have none : item.bind Value.asText? = none := lacking.bind_eq_none False.elim
        simp [none]
      · have none : item.bind Value.columns? = none := lacking.bind_eq_none fun unread => unread
        simp [none]
  | column =>
    have leaf {α : Type} {read : Value → Option α} (isLeaf : Place.column.member key = .leaf) :
        item.bind read = none :=
      lacking.bind_eq_none fun unread => (isLeaf ▸ unread : Unread .leaf _).elim
    match found, length with
    | [name, definition, auto, nullable, default], _ =>
      simp only [Place.keys, List.zip_cons_cons, List.zip_nil_right, List.mem_cons,
        List.not_mem_nil, or_false, Prod.mk.injEq] at isField
      rw [Unread, Column.ofJson?_of_fields fields]
      rcases isField with ⟨rfl, rfl⟩ | ⟨rfl, rfl⟩ | ⟨rfl, rfl⟩ | ⟨rfl, rfl⟩ | ⟨rfl, rfl⟩
      · have none : item.bind Value.asText? = none := leaf rfl
        simp [none]
      · have none : item.bind Value.asText? = none := leaf rfl
        simp [none]
      · have none : item.bind Value.asBool? = none := leaf rfl
        simp [none]
      · have none : item.bind Value.asBool? = none := leaf rfl
        simp [none]
      · have none : item.bind Value.asBool? = none := leaf rfl
        simp [none]

/-- A record in which what is found for a field is not enough. -/
theorem unread_record {place : Place} {members : List (Option String × Value)} {key : String}
    (isKey : key ∈ place.keys)
    (lacking : ∀ found, Value.uniqueMember members key = some found → Lacking place key found) :
    Unread place (.record members) := by
  have isStructure : place.keys ≠ [] := List.ne_nil_of_mem isKey
  cases fields : (Value.record members).fields place.keys with
  | none => exact unread_of_fields isStructure fields
  | some found =>
    have each : place.keys.mapM (Value.uniqueMember members) = some found := by
      rw [Value.fields] at fields
      exact (Option.ite_none_right_eq_some.1 fields).2
    have pairwise := Value.mapM_eq_some_iff.1 each
    have length := pairwise.length_eq
    rw [← List.map_fst_zip (Nat.le_of_eq length)] at isKey
    obtain ⟨⟨name, item⟩, isField, rfl⟩ := List.mem_map.1 isKey
    exact unread_of_lacking fields length.symm isField (lacking _ (List.forall₂_zip pairwise isField))

/-- The last field of a structure may not be left out. -/
theorem exists_last_key {place : Place} (isStructure : place.keys ≠ []) :
    ∃ before key, place.keys = before ++ [key] ∧ key ∉ place.optional := by
  cases place with
  | tables | columns | leaf => exact absurd rfl isStructure
  | schema => exact ⟨["database"], "tables", rfl, by decide⟩
  | table => exact ⟨["name"], "columns", rfl, by decide⟩
  | column =>
    exact ⟨["name", "raw_definition", "is_auto_increment", "is_nullable"], "has_default", rfl,
      by decide⟩

/-- A list in which what stands for a field is not enough. -/
theorem unread_list {place : Place} {items : List Value} {key : String} {item : Option Value}
    (isField : (key, item) ∈ place.keys.zip
      (items.map some ++ List.replicate (place.keys.length - items.length) none))
    (lacking : Lacking place key item) : Unread place (.list items) := by
  have isStructure : place.keys ≠ [] := List.ne_nil_of_mem (List.of_mem_zip isField).1
  by_cases fits : items.length ≤ place.keys.length
  · have fields : (Value.list items).fields place.keys =
        some (items.map some ++ List.replicate (place.keys.length - items.length) none) := by
      rw [Value.fields, if_pos fits]
    exact unread_of_lacking fields (by simp; omega) isField lacking
  · exact unread_of_fields isStructure (by rw [Value.fields, if_neg fits])

theorem mem_zip_some_append {keys : List String} {items : List Value} {key : String} {value : Value}
    (isField : (key, value) ∈ keys.zip items) (rest : List (Option Value)) :
    (key, some value) ∈ keys.zip (items.map some ++ rest) := by
  induction keys generalizing items with
  | nil => simp at isField
  | cons first keys ih =>
    cases items with
    | nil => simp at isField
    | cons item items =>
      rw [List.zip_cons_cons, List.mem_cons] at isField
      rw [List.map_cons, List.cons_append, List.zip_cons_cons, List.mem_cons]
      rcases isField with same | later
      · obtain ⟨rfl, rfl⟩ := Prod.mk.inj same
        exact .inl rfl
      · exact .inr (ih later)

theorem unread_items {place : Place} {items : List Value} {value : Value}
    (isList : place.keys = []) (isItem : value ∈ items) (unread : Unread place.item value) :
    Unread place (.list items) := by
  cases place with
  | schema | table | column => simp [Place.keys] at isList
  | leaf => exact unread
  | tables =>
    have none : Table.ofJson? value = none := unread
    exact Value.mapM_eq_none isItem none
  | columns =>
    have none : Column.ofJson? value = none := unread
    exact Value.mapM_eq_none isItem none

/-- Nothing is read of a faulty value. -/
theorem unread_of_isFaulty {place : Place} {value : Value} (faulty : IsFaulty place value) :
    Unread place value := by
  induction faulty with
  | repeated isKey twice =>
    refine unread_record isKey fun found isFound => ?_
    rw [Value.uniqueMember_eq_none twice] at isFound
    exact absurd isFound (by simp)
  | missing isKey needed absent =>
    refine unread_record isKey fun found isFound => ?_
    rw [Value.uniqueMember_of_not_mem absent] at isFound
    rw [← Option.some.inj isFound]
    exact .missing needed
  | @short place items short =>
    have isStructure : place.keys ≠ [] := by
      rintro none
      simp [none] at short
    obtain ⟨before, key, keys, needed⟩ := exists_last_key isStructure
    have isField : (key, none) ∈ place.keys.zip
        (items.map some ++ List.replicate (place.keys.length - items.length) none) := by
      rw [keys, List.length_append, List.length_singleton] at short ⊢
      obtain ⟨gap, shape⟩ : ∃ gap, before.length + 1 - items.length = gap + 1 :=
        ⟨before.length - items.length, by omega⟩
      rw [shape, List.replicate_succ', ← List.append_assoc, List.zip_append (by simp; omega)]
      simp
    exact unread_list isField (.missing needed)
  | @member place key value members isKey isMember _ ih =>
    refine unread_record isKey fun found isFound => ?_
    rcases Value.uniqueMember_of_mem isMember with none | same
    · exact absurd (none.symm.trans isFound) (by simp)
    · rw [← Option.some.inj (same.symm.trans isFound)]
      exact .unread ih
  | field isField _ ih => exact unread_list (mem_zip_some_append isField _) (.unread ih)
  | item isList isItem _ ih => exact unread_items isList isItem ih

/-- A schema that is written in JSON is read back as it was. Texts of values that say the same are
read as the same schema, if as any, and nothing is read of a text in which a member comes twice or
one but the database is missing. -/
theorem reads_schemas_and_variants :
    (∀ schema : Schema, Writes (schema.format .json).toList (Value.ofDocument schema.toDocument) ∧
      Schema.ofJsonText? (schema.format .json) = some schema) ∧
    (∀ {text other : String} {value variant : Value}, Writes text.toList value →
      Writes other.toList variant → Varies .schema value variant →
      Schema.ofJsonText? other = Schema.ofJsonText? text) ∧
    ∀ {text : String} {value : Value}, Writes text.toList value → IsFaulty .schema value →
      Schema.ofJsonText? text = none := by
  refine ⟨fun schema => ?_, fun writes also varies => ?_, fun writes faulty => ?_⟩
  · have writes : Writes (schema.format .json).toList (Value.ofDocument schema.toDocument) :=
      Json.writes_render (isWritable_schema schema)
    refine ⟨writes, ?_⟩
    rw [Schema.ofJsonText?, writes.ofText?, Option.bind_some, schema.ofJson?_toDocument]
  · rw [Schema.ofJsonText?, Schema.ofJsonText?, writes.ofText?, also.ofText?]
    exact (readAlike_of_varies varies).symm
  · rw [Schema.ofJsonText?, writes.ofText?]
    exact unread_of_isFaulty faulty

/-- A schema with a table without columns, whose name has a quote in it. -/
def bareSchema : Schema :=
  ⟨none, [⟨"a\"b", []⟩]⟩

/-- The schema as a list of its fields; its table has a further member, in front of its name. -/
def bareVariant : Value :=
  .list [.null, .list [.record [(some "columns", .list []), (some "more", .number "-1e5"),
    (some "name", .text (some "a\"b"))]]]

/-- The text of the variant. -/
def bareText : String :=
  "[null, [\x7b\"columns\":[ ],\"more\":-1e5,\"name\":\"a\\\"b\"\x7d]]"

/-- A schema in which the tables come twice. -/
def repeatedTables : Document :=
  .record [("tables", .list []), ("tables", .list [])]

theorem writes_bareText : Writes bareText.toList bareVariant := by
  have isSpace : IsSpace [] := by simp [IsSpace]
  have key (name : String) : WritesKey (quote name) (some name) :=
    ⟨[], quote name, [], isSpace, Json.Token.isQuoted_quote name, isSpace, by simp⟩
  have columns : Writes "[ ]".toList (.list []) :=
    @Writes.list [] [' '] (by simp) Json.isSpace_blank
  have numeral : Json.Token.IsNumeral "-1e5".toList :=
    @Json.Token.IsNumeral.intro ['-'] ['1'] [] ['e', '5'] (by simp)
      (.other (by simp [Json.Token.IsDigits]) (by decide)) .none
      (@Json.Token.IsExponent.some 'e' [] ['5'] (.inl rfl) (by simp)
        (by simp [Json.Token.IsDigits]))
  have name : Writes (quote "a\"b") (.text (some "a\"b")) :=
    .text (Json.Token.isQuoted_quote "a\"b")
  have table := @Writes.record
    [⟨quote "columns", some "columns", _, _⟩, ⟨quote "more", some "more", _, _⟩,
      ⟨quote "name", some "name", _, _⟩] [] (by simp [key])
    (by simpa using ⟨columns, .number numeral, name⟩) isSpace
  have tables := @Writes.list [(_, _)] [] (by simpa using table) isSpace
  have whole := @Writes.list [("null".toList, .null), (_, _)] []
    (List.forall_mem_cons.2 ⟨.null, List.forall_mem_cons.2
      ⟨tables.behind Json.isSpace_blank, by simp⟩⟩) isSpace
  convert whole using 1
  · decide
  · simp [bareVariant]

theorem varies_bareVariant :
    Varies .schema (Value.ofDocument bareSchema.toDocument) bareVariant := by
  have added : Varies .table
      (.record [(some "name", .text (some "a\"b")), (some "columns", .list [])])
      (.record [(some "more", .number "-1e5"), (some "name", .text (some "a\"b")),
        (some "columns", .list [])]) := .added (by decide) rfl
  have table := added.trans
    (.permuted (List.perm_append_singleton (some "columns", Value.list []) [_, _]))
  have tables := @Varies.item .tables _ _ [] [] rfl table
  have schema := @Varies.member .schema "tables" _ _ [] [] tables
  exact (schema.trans (.nullDatabase (by decide))).trans (.array (by decide) (by decide))

theorem isFaulty_repeatedTables : IsFaulty .schema (Value.ofDocument repeatedTables) :=
  @IsFaulty.repeated .schema "tables" _ (by decide) (by decide)

/-- The schema is read from the list of its fields, and nothing is read where the tables of a schema
come twice. -/
theorem reads_list_of_fields :
    Varies .schema (Value.ofDocument bareSchema.toDocument) bareVariant ∧
      Schema.ofJsonText? bareText = some bareSchema ∧
      IsFaulty .schema (Value.ofDocument repeatedTables) ∧
      Schema.ofJsonText? (Json.render repeatedTables) = none := by
  obtain ⟨dumps, variants, faults⟩ := reads_schemas_and_variants
  obtain ⟨writes, read⟩ := dumps bareSchema
  have writable : Json.IsWritable repeatedTables :=
    .record (by simp [Json.IsWritable.list])
  refine ⟨varies_bareVariant, ?_, isFaulty_repeatedTables, ?_⟩
  · exact (variants writes writes_bareText varies_bareVariant).trans read
  · exact faults (Json.writes_render writable) isFaulty_repeatedTables

end SchemaScaffold
