/-!
Search by halving in arrays whose entries stand in increasing order.
-/

namespace CanonicalLR

variable {α κ : Type}

/-- Narrows a stretch of `size` places from `base` on down to one place: the last of them that is
not beyond what is sought, or the first where all are beyond. -/
def narrow (beyond : Nat → Bool) : (steps base size : Nat) → Nat
  | 0, base, _ => base
  | steps + 1, base, size =>
      if size ≤ 1 then base
      else
        let half := size / 2
        narrow beyond steps (if beyond (base + half) then base else base + half) (size - half)

/-- The entry with a key. -/
def bisect [LT κ] [DecidableLT κ] [DecidableEq κ] (keyOf : α → κ) (key : κ) (entries : Array α) :
    Option α :=
  let beyond (place : Nat) := entries[place]?.any fun entry => decide (key < keyOf entry)
  entries[narrow beyond entries.size 0 entries.size]?.filter fun entry => decide (keyOf entry = key)

/-- The number of entries with a property that the first entries have and the others lack. -/
def countFirst (holds : α → Bool) (entries : Array α) : Nat :=
  let beyond (place : Nat) := !entries[place]?.any holds
  let last := narrow beyond entries.size 0 entries.size
  if beyond last then last else last + 1

theorem countFirst_singleton (holds : α → Bool) (entry : α) :
    countFirst holds #[entry] = if holds entry then 1 else 0 := by
  have last : narrow (fun place => !#[entry][place]?.any holds) 1 0 1 = 0 := by
    simp [narrow]
  simp only [countFirst, List.size_toArray, List.length_cons, List.length_nil, Nat.zero_add, last]
  cases held : holds entry <;> simp [held]

end CanonicalLR
