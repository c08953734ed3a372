/-!
Keys of ordered sets and maps: types with a decidable strict order in which two different keys are
always comparable.
-/

namespace CanonicalLR

class Key (κ : Type) [LT κ] [DecidableLT κ] : Prop where
  irrefl : ∀ a : κ, ¬ a < a
  trans : ∀ {a b c : κ}, a < b → b < c → a < c
  connected : ∀ {a b : κ}, ¬ a < b → ¬ b < a → a = b

instance : Key Nat where
  irrefl := Nat.lt_irrefl
  trans := Nat.lt_trans
  connected := by intro a b; omega

instance : Key Int where
  irrefl := Int.lt_irrefl
  trans := Int.lt_trans
  connected := by intro a b; omega

instance : Key String where
  irrefl := String.lt_irrefl
  trans := String.lt_trans
  connected := fun notLess notGreater =>
    String.le_antisymm (String.not_lt.mp notGreater) (String.not_lt.mp notLess)

namespace Key

variable {κ : Type} [LT κ] [DecidableLT κ] [Key κ]

theorem ne_of_lt {a b : κ} (less : a < b) : a ≠ b := by
  rintro rfl
  exact irrefl a less

theorem not_lt_of_lt {a b : κ} (less : a < b) : ¬ b < a :=
  fun greater => irrefl a (trans less greater)

end Key

end CanonicalLR
