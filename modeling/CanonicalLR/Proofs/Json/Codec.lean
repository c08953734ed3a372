import CanonicalLR.Json.Codec
import CanonicalLR.Proofs.Json.Library
import CanonicalLR.Proofs.Json.Reader

namespace CanonicalLR.JsonValue

open JsonLibrary

theorem asNat?_int {number : Nat} (word : IsWord number) : asNat? (.int number) = some number := by
  rw [IsWord] at word
  have within : 0 ≤ (number : Int) ∧ (number : Int) ≤ 18446744073709551615 + 0 := by omega
  simp only [asNat?, asInteger?, Option.bind_eq_bind, Option.bind_some, if_pos within,
    Int.toNat_natCast, Nat.min_eq_left word]
  rfl

theorem asInt?_int {number : Int} (halfWord : IsHalfWord number) :
    asInt? (.int number) = some number := by
  rw [asInt?]
  simp only [asInteger?, Option.bind_eq_bind, Option.bind_some]
  exact if_pos halfWord

/-! ### Records -/

section
variable {fields : List (String × JsonValue)} {names : List String}

theorem restrictTo?_obj (known : ∀ field ∈ fields, field.1 ∈ names) :
    restrictTo? names (.obj fields) = some (.obj fields) := by
  have all (field : String × JsonValue) (member : field ∈ fields) :
      names.contains field.1 = true :=
    List.contains_iff_mem.mpr (known field member)
  have kept : fields.filter (fun field => names.contains field.1) = fields :=
    List.filter_eq_self.mpr all
  have none : fields.filter (not ∘ fun field => names.contains field.1) = [] := by
    rw [List.filter_eq_nil_iff]
    intro field member
    rw [Function.comp_apply, all field member]
    exact Bool.false_ne_true
  rw [restrictTo?, List.partition_eq_filter_filter, kept, none]
  rfl

theorem fieldAs?_obj {α : Type} {read? : JsonValue → Option α} (distinct : (fields.map (·.1)).Nodup)
    (name : String) : fieldAs? name read? (.obj fields) = (fields.lookup name).bind read? := by
  have found : fieldsNamed name (.obj fields) = (fields.lookup name).toList := by
    induction fields with
    | nil => rfl
    | cons field rest ih =>
        obtain ⟨new, later⟩ := List.nodup_cons.mp distinct
        obtain ⟨own, value⟩ := field
        by_cases same : own = name
        · subst same
          have others : rest.filter (·.1 == own) = [] := by
            rw [List.filter_eq_nil_iff]
            intro field member equal
            have listed : field.1 ∈ rest.map (·.1) := List.mem_map_of_mem member
            rw [eq_of_beq equal] at listed
            exact new listed
          simp [fieldsNamed, others]
        · have differ : (name == own) = false := beq_false_of_ne (Ne.symm same)
          rw [List.lookup_cons, differ, ← ih later]
          simp [fieldsNamed, same]
  rw [fieldAs?, found]
  cases fields.lookup name with
  | none => rfl
  | some value => cases read : read? value <;> simp [read]

theorem lookup_of_mem (distinct : (fields.map (·.1)).Nodup) {field : String × JsonValue}
    (member : field ∈ fields) : fields.lookup field.1 = some field.2 := by
  induction fields with
  | nil => cases member
  | cons first rest ih =>
      obtain ⟨new, later⟩ := List.nodup_cons.mp distinct
      rw [List.lookup_cons]
      rcases List.mem_cons.mp member with rfl | member
      · simp
      · have differ : (field.1 == first.1) = false :=
          beq_false_of_ne fun same => new (List.mem_map.mpr ⟨field, member, same⟩)
        rw [differ]
        exact ih later member

end

/-! ### Shapes -/

theorem decodeHolder?_eq {holders : List (String × Shape)} {name : String} {content : Shape}
    (listed : holders.lookup name = some content) (value : JsonValue) :
    decodeHolder? holders name value = (decode? content value).map (.holder name) := by
  induction holders with
  | nil => cases listed
  | cons holder rest ih =>
      obtain ⟨own, shape⟩ := holder
      rw [decodeHolder?]
      rw [List.lookup_cons] at listed
      by_cases same : own = name
      · subst same
        rw [if_pos rfl]
        simp only [BEq.rfl] at listed
        rw [Option.some.inj listed]
      · rw [if_neg same]
        rw [beq_false_of_ne (Ne.symm same)] at listed
        exact ih listed

mutual

theorem decode?_of_reads {shape : Shape} {value : JsonValue} {data : Data} :
    Reads shape value data → decode? shape value = some data
  | .word word => by rw [decode?, asNat?_int word]; rfl
  | .halfWord halfWord => by rw [decode?, asInt?_int halfWord]; rfl
  | .text text => by rw [decode?]; rfl
  | .absent => by rw [decode?]
  | .present notNull reads => by
      rw [decode?, decode?_of_reads reads]
      · rfl
      · exact notNull
  | .list reads => by
      rw [decode?]
      exact congrArg (Option.map _) (mapM_decode?_of_reads reads)
  | .record distinct known reads => by
      rw [decode?, restrictTo?_obj known, Option.bind_eq_bind, Option.bind_some,
        decodeFields?_of_reads distinct reads]
      rfl
  | .bare listed => by
      rw [decode?]
      exact if_pos listed
  | .holder listed reads => by
      rw [decode?]
      exact (decodeHolder?_eq listed _).trans (congrArg (Option.map _) (decode?_of_reads reads))

theorem mapM_decode?_of_reads {member : Shape} {values : List JsonValue} {members : List Data} :
    ReadsMembers member values members → values.mapM (decode? member) = some members
  | .nil => rfl
  | .cons first rest => by
      rw [List.mapM_cons, decode?_of_reads first, mapM_decode?_of_reads rest]
      rfl

theorem decodeFields?_of_reads {expected : List (String × Shape)}
    {fields : List (String × JsonValue)} {parts : List (String × Data)}
    (distinct : (fields.map (·.1)).Nodup) :
    ReadsFields expected fields parts → decodeFields? expected (.obj fields) = some parts
  | .nil => rfl
  | .cons found first rest => by
      rw [decodeFields?, fieldAs?_obj distinct, found, Option.bind_some, decode?_of_reads first,
        decodeFields?_of_reads distinct rest]
      rfl

end

mutual

theorem plain_of_reads {shape : Shape} {value : JsonValue} {data : Data} :
    Reads shape value data → Plain value
  | .word word => by
      rw [IsWord] at word
      exact .int ⟨by omega, by omega⟩
  | .halfWord halfWord => by
      rw [IsHalfWord] at halfWord
      exact .int ⟨by omega, by omega⟩
  | .text text => .str text
  | .absent => .null
  | .present _ reads => plain_of_reads reads
  | .list reads => .arr (plain_of_readsMembers reads)
  | .record distinct known reads => .obj fun value member =>
      plain_of_readsFields reads value.1 (known value member) value.2 (lookup_of_mem distinct member)
  | .bare _ => .str _
  | .holder _ reads => .obj (List.forall_mem_singleton.mpr (plain_of_reads reads))

theorem plain_of_readsMembers {member : Shape} {values : List JsonValue} {members : List Data} :
    ReadsMembers member values members → ∀ value ∈ values, Plain value
  | .nil => nofun
  | .cons first rest =>
      List.forall_mem_cons.mpr ⟨plain_of_reads first, plain_of_readsMembers rest⟩

theorem plain_of_readsFields {expected : List (String × Shape)}
    {fields : List (String × JsonValue)} {parts : List (String × Data)} :
    ReadsFields expected fields parts → ∀ name ∈ expected.map (·.1), ∀ value,
      fields.lookup name = some value → Plain value
  | .nil => nofun
  | .cons found first rest => by
      intro name listed value looked
      rcases List.mem_cons.mp listed with rfl | listed
      · obtain rfl := Option.some.inj (found.symm.trans looked)
        exact plain_of_reads first
      · exact plain_of_readsFields rest name listed value looked

end

theorem documented_library : library.Documented fun value => String.ofList value.render where
  writes _ := rfl
  reads := by
    intro α _ a value reads
    change readAs (String.ofList value.render) = .ok a
    unfold readAs
    rw [read?_render (plain_of_reads reads)]
    dsimp only
    rw [decode?_of_reads reads, Option.bind_some, ofData?_toData]

end CanonicalLR.JsonValue
