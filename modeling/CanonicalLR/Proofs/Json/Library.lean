import CanonicalLR.Json.Library
import Mathlib.Data.List.Forall2
import Mathlib.Data.List.Nodup

namespace CanonicalLR

open Reflected (shape)

namespace JsonLibrary

def IsWord (number : Nat) : Prop :=
  number ≤ 18446744073709551615

def IsHalfWord (number : Int) : Prop :=
  -2147483648 ≤ number ∧ number ≤ 2147483647

instance (number : Nat) : Decidable (IsWord number) :=
  inferInstanceAs (Decidable (_ ≤ _))

instance (number : Int) : Decidable (IsHalfWord number) :=
  inferInstanceAs (Decidable (_ ∧ _))

mutual

/-- What a document says where a value of a shape is expected. -/
inductive Reads : Shape → JsonValue → Data → Prop where
  | word {number : Nat} (word : IsWord number) : Reads .word (.int number) (.number number)
  | halfWord {number : Int} (halfWord : IsHalfWord number) :
      Reads .halfWord (.int number) (.number number)
  | text (text : String) : Reads .text (.str text) (.text text)
  | absent {content : Shape} : Reads (.option content) .null .absent
  | present {content : Shape} {value : JsonValue} {data : Data} (notNull : value ≠ .null)
      (reads : Reads content value data) : Reads (.option content) value (.present data)
  | list {member : Shape} {values : List JsonValue} {members : List Data}
      (reads : ReadsMembers member values members) :
      Reads (.list member) (.arr values) (.list members)
  /-- Each field of a record is looked up by its name. -/
  | record {fields : List (String × Shape)} {values : List (String × JsonValue)}
      {parts : List (String × Data)} (distinct : (values.map (·.1)).Nodup)
      (known : ∀ value ∈ values, value.1 ∈ fields.map (·.1))
      (reads : ReadsFields fields values parts) : Reads (.record fields) (.obj values) (.record parts)
  | bare {names : List String} {holders : List (String × Shape)} {name : String}
      (listed : name ∈ names) : Reads (.choice names holders) (.str name) (.bare name)
  | holder {names : List String} {holders : List (String × Shape)} {name : String} {content : Shape}
      {value : JsonValue} {data : Data} (listed : holders.lookup name = some content)
      (reads : Reads content value data) :
      Reads (.choice names holders) (.obj [(name, value)]) (.holder name data)

inductive ReadsMembers : Shape → List JsonValue → List Data → Prop where
  | nil {member : Shape} : ReadsMembers member [] []
  | cons {member : Shape} {value : JsonValue} {values : List JsonValue} {data : Data}
      {members : List Data} (first : Reads member value data)
      (rest : ReadsMembers member values members) :
      ReadsMembers member (value :: values) (data :: members)

inductive ReadsFields : List (String × Shape) → List (String × JsonValue) → List (String × Data) →
    Prop where
  | nil {values : List (String × JsonValue)} : ReadsFields [] values []
  | cons {name : String} {field : Shape} {fields : List (String × Shape)} {value : JsonValue}
      {values : List (String × JsonValue)} {data : Data} {parts : List (String × Data)}
      (found : values.lookup name = some value) (first : Reads field value data)
      (rest : ReadsFields fields values parts) :
      ReadsFields ((name, field) :: fields) values ((name, data) :: parts)

end

/-- What a JSON library promises: it prints the document for a value, and from what is printed for a
document it reads what the document says. -/
structure Documented (library : JsonLibrary) (print : JsonValue → String) : Prop where
  writes {α : Type} [Reflected α] (a : α) : library.write a = print (toData a).document
  reads {α : Type} [Reflected α] {a : α} {value : JsonValue} :
    Reads (shape α) value (toData a) → library.read (print value) = .ok a

def Returns {α : Type} [Reflected α] (a : α) : Prop :=
  Reads (shape α) (toData a).document (toData a)

variable {α : Type} [Reflected α] {library : JsonLibrary} {print : JsonValue → String}

theorem Documented.read_write (documented : library.Documented print) {a : α} (returns : Returns a) :
    library.read (library.write a) = .ok a := by
  rw [documented.writes]
  exact documented.reads returns

theorem returns_nat {number : Nat} (word : IsWord number) : Returns number :=
  .word word

theorem returns_int {number : Int} (halfWord : IsHalfWord number) : Returns number :=
  .halfWord halfWord

theorem returns_string (text : String) : Returns text :=
  .text text

theorem Returns.option {content : Option α} (each : ∀ a ∈ content, Returns a)
    (notNull : ∀ a : α, (toData a).document ≠ .null) : Returns content := by
  cases content with
  | none => exact .absent
  | some a => exact .present (notNull a) (each a rfl)

theorem Returns.list {members : List α} (each : ∀ a ∈ members, Returns a) : Returns members := by
  apply Reads.list
  induction members with
  | nil => exact .nil
  | cons a rest ih =>
      obtain ⟨here, later⟩ := List.forall_mem_cons.mp each
      exact .cons here (ih later)

theorem Returns.array {members : Array α} (each : ∀ a ∈ members, Returns a) : Returns members :=
  Returns.list fun a member => each a (Array.mem_toList_iff.mp member)

/-! ### Records -/

theorem documentFields_eq_map (parts : List (String × Data)) :
    Data.documentFields parts = parts.map fun part => (part.1, part.2.document) := by
  induction parts with
  | nil => rfl
  | cons part rest ih => rw [Data.documentFields, ih, List.map_cons]

theorem lookup_documentFields {parts : List (String × Data)} (distinct : (parts.map (·.1)).Nodup)
    {name : String} {data : Data} (member : (name, data) ∈ parts) :
    (Data.documentFields parts).lookup name = some data.document := by
  induction parts with
  | nil => cases member
  | cons part rest ih =>
      obtain ⟨new, later⟩ := List.nodup_cons.mp distinct
      obtain ⟨own, other⟩ := part
      rw [Data.documentFields, List.lookup_cons]
      rcases List.mem_cons.mp member with same | member
      · cases same
        simp
      · have differ : (name == own) = false :=
          beq_false_of_ne fun same => new (List.mem_map.mpr ⟨_, member, same⟩)
        rw [differ]
        exact ih later member

theorem reads_record {fields : List (String × Shape)} {parts : List (String × Data)}
    (distinct : (fields.map (·.1)).Nodup)
    (each : List.Forall₂ (fun field part => field.1 = part.1 ∧ Reads field.2 part.2.document part.2)
      fields parts) : Reads (.record fields) (Data.record parts).document (.record parts) := by
  have names : fields.map (·.1) = parts.map (·.1) := by
    rw [← List.forall₂_eq_eq_eq, List.forall₂_map_left_iff, List.forall₂_map_right_iff]
    exact each.imp fun _ _ here => here.1
  have documented : (Data.documentFields parts).map (·.1) = parts.map (·.1) := by
    simp [documentFields_eq_map]
  rw [Data.document]
  refine .record (documented ▸ names ▸ distinct) (fun value member => ?_) ?_
  · rw [names, ← documented]
    exact List.mem_map_of_mem member
  · have within : ∀ part ∈ parts, (Data.documentFields parts).lookup part.1 = some part.2.document :=
      fun part member => lookup_documentFields (names ▸ distinct) member
    generalize Data.documentFields parts = values at within
    clear distinct names documented
    induction each with
    | nil => exact .nil
    | cons here _ ih =>
        rename_i field part _ _ _
        obtain ⟨own, expected⟩ := field
        obtain ⟨name, data⟩ := part
        obtain ⟨rfl, reads⟩ := here
        obtain ⟨found, later⟩ := List.forall_mem_cons.mp within
        exact .cons found reads (ih later)

end JsonLibrary

end CanonicalLR
