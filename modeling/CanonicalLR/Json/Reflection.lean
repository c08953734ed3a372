/-!
What a library that stores values is told about them: the shape of their type, and their parts by
name. Types say it once, and the library does the rest.
-/

namespace CanonicalLR

inductive Shape where
  /-- Natural numbers of 64 bits. -/
  | word
  /-- Integers of 32 bits. -/
  | halfWord
  | text
  | option (content : Shape)
  | list (member : Shape)
  | record (fields : List (String × Shape))
  /-- Alternatives that are names alone, and others that hold something. -/
  | choice (names : List String) (holders : List (String × Shape))

inductive Data where
  | number (value : Int)
  | text (value : String)
  | absent
  | present (content : Data)
  | list (members : List Data)
  | record (fields : List (String × Data))
  | bare (name : String)
  | holder (name : String) (content : Data)

class Reflected (α : Type) where
  shape : Shape
  toData : α → Data
  ofData? : Data → Option α
  ofData?_toData : ∀ a, ofData? (toData a) = some a

export Reflected (toData ofData? ofData?_toData)

attribute [simp] Reflected.ofData?_toData

namespace Reflected

instance : Reflected Nat where
  shape := .word
  toData number := .number number
  ofData?
    | .number (.ofNat number) => some number
    | _ => none
  ofData?_toData _ := rfl

instance : Reflected Int where
  shape := .halfWord
  toData := .number
  ofData?
    | .number number => some number
    | _ => none
  ofData?_toData _ := rfl

instance : Reflected String where
  shape := .text
  toData := .text
  ofData?
    | .text text => some text
    | _ => none
  ofData?_toData _ := rfl

variable {α : Type} [Reflected α]

theorem mapM_ofData? (members : List α) : (members.map toData).mapM ofData? = some members := by
  induction members with
  | nil => rfl
  | cons a rest ih => simp [ih]

instance : Reflected (Option α) where
  shape := .option (shape α)
  toData
    | none => .absent
    | some a => .present (toData a)
  ofData?
    | .absent => some none
    | .present content => (ofData? content).map some
    | _ => none
  ofData?_toData content := by cases content <;> simp

instance : Reflected (List α) where
  shape := .list (shape α)
  toData members := .list (members.map toData)
  ofData?
    | .list members => members.mapM ofData?
    | _ => none
  ofData?_toData := mapM_ofData?

instance : Reflected (Array α) where
  shape := shape (List α)
  toData members := toData members.toList
  ofData? data := (ofData? data).map List.toArray
  ofData?_toData := by simp

end Reflected

end CanonicalLR
