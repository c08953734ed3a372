/-!
Growing a value until it stays the same. A caller that starts below the least fixed point and can
bound how often the value grows reaches that point (`grow_settle`).
-/

namespace CanonicalLR

variable {α : Type} [DecidableEq α]

/-- Applies `grow` until nothing changes, at most `rounds` times. -/
def settle (grow : α → α) : (rounds : Nat) → α → α
  | 0, a => a
  | rounds + 1, a =>
      let next := grow a
      if next = a then a else settle grow rounds next

/-- Applies `grow` until the image of the value stays the same, at most `rounds` times. -/
def settleThrough {β : Type} (image : β → α) (grow : β → β) : (rounds : Nat) → β → β
  | 0, b => b
  | rounds + 1, b =>
      let next := grow b
      if image next = image b then b else settleThrough image grow rounds next

theorem image_settleThrough {β : Type} {image : β → α} {grow : β → β} {imageGrow : α → α}
    (commutes : ∀ b, image (grow b) = imageGrow (image b)) (rounds : Nat) (b : β) :
    image (settleThrough image grow rounds b) = settle imageGrow rounds (image b) := by
  induction rounds generalizing b with
  | zero => rfl
  | succ rounds ih =>
      simp only [settleThrough, settle, ← commutes]
      split
      · rfl
      · exact ih (grow b)

/-- Whatever holds at the start and is kept by growing holds at the end. -/
theorem settle_induction {motive : α → Prop} {grow : α → α}
    (step : ∀ a, motive a → motive (grow a)) (rounds : Nat) {a : α} (start : motive a) :
    motive (settle grow rounds a) := by
  induction rounds generalizing a with
  | zero => exact start
  | succ rounds ih =>
      simp only [settle]
      split
      · exact start
      · exact ih (step a start)

/-- If each change lowers a measure that the rounds exceed, the value comes to rest. Only values that
satisfy what growing keeps matter. -/
theorem grow_settle {holds : α → Prop} {grow : α → α} (measure : α → Nat)
    (keeps : ∀ a, holds a → holds (grow a))
    (lowers : ∀ a, holds a → grow a ≠ a → measure (grow a) < measure a) (rounds : Nat) {a : α}
    (start : holds a) (enough : measure a < rounds) :
    grow (settle grow rounds a) = settle grow rounds a := by
  induction rounds generalizing a with
  | zero => exact absurd enough (Nat.not_lt_zero _)
  | succ rounds ih =>
      simp only [settle]
      split
      · assumption
      · rename_i changed
        have := lowers a start changed
        exact ih (keeps a start) (by omega)

end CanonicalLR
