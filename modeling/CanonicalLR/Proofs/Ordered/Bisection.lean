import Mathlib.Algebra.Order.Group.Nat
import Mathlib.Tactic.ByContra
import CanonicalLR.Ordered.Bisection
import CanonicalLR.Ordered.Key

namespace CanonicalLR

section Bisection

variable {α κ : Type} [LT κ] [DecidableLT κ] [Key κ]

theorem narrow_eq {beyond : Nat → Bool} {steps base size place : Nat} (lower : base ≤ place)
    (upper : place < base + size) (enough : size ≤ steps)
    (before : ∀ other, other ≤ place → beyond other = false)
    (after : ∀ other, place < other → other < base + size → beyond other = true) :
    narrow beyond steps base size = place := by
  induction steps generalizing base size with
  | zero => omega
  | succ steps ih =>
      simp only [narrow]
      split
      · omega
      · split
        · rename_i middle
          have less : place < base + size / 2 := by
            by_contra notLess
            rw [before _ (Nat.le_of_not_lt notLess)] at middle
            cases middle
          exact ih lower (by omega) (by omega) fun other above within =>
            after other above (by omega)
        · rename_i middle
          have atLeast : base + size / 2 ≤ place := by
            by_contra less
            exact middle (after _ (Nat.lt_of_not_le less) (by omega))
          exact ih atLeast (by omega) (by omega) fun other above within =>
            after other above (by omega)

theorem bisect_eq_some_iff [DecidableEq κ] {keyOf : α → κ} {key : κ} {entries : Array α}
    (increasing : entries.toList.Pairwise (keyOf · < keyOf ·)) {entry : α} :
    bisect keyOf key entries = some entry ↔ entry ∈ entries ∧ keyOf entry = key := by
  simp only [bisect, Option.filter_eq_some_iff, decide_eq_true_eq]
  apply and_congr_left
  rintro rfl
  constructor
  · exact Array.mem_of_getElem?
  · intro member
    obtain ⟨place, less, same⟩ := Array.mem_iff_getElem.mp member
    have ordered {first second : Nat} (order : first < second) (within : second < entries.size) :
        keyOf entries[first] < keyOf entries[second] :=
      List.pairwise_iff_getElem.mp increasing first second (by simpa using order.trans within)
        (by simpa using within) order
    have found : narrow (fun place => entries[place]?.any fun other =>
        decide (keyOf entry < keyOf other)) entries.size 0 entries.size = place := by
      apply narrow_eq (Nat.zero_le _) (by omega) le_rfl
      · intro other atMost
        have within : other < entries.size := by omega
        rw [Array.getElem?_eq_getElem within, Option.any_some, decide_eq_false_iff_not, ← same]
        rcases Nat.lt_or_eq_of_le atMost with below | rfl
        · exact Key.not_lt_of_lt (ordered below less)
        · exact Key.irrefl _
      · intro other above within
        rw [Nat.zero_add] at within
        rw [Array.getElem?_eq_getElem within, Option.any_some, decide_eq_true_eq, ← same]
        exact ordered above within
    rw [found, Array.getElem?_eq_getElem less, same]

theorem bisect_eq_find? [DecidableEq κ] {keyOf : α → κ} {entries : Array α}
    (increasing : entries.toList.Pairwise (keyOf · < keyOf ·)) (key : κ) :
    bisect keyOf key entries = entries.find? (keyOf · = key) := by
  cases found : entries.find? (keyOf · = key) with
  | none =>
      rw [Option.eq_none_iff_forall_ne_some]
      intro entry halved
      obtain ⟨member, same⟩ := (bisect_eq_some_iff increasing).mp halved
      exact Array.find?_eq_none.mp found entry member (decide_eq_true same)
  | some entry =>
      rw [bisect_eq_some_iff increasing]
      exact ⟨Array.mem_of_find?_eq_some found,
        of_decide_eq_true (Array.find?_some (p := (keyOf · = key)) found)⟩

end Bisection

section Counting

variable {α : Type} {holds : α → Bool} {entries : Array α}

theorem narrow_of_beyond {beyond : Nat → Bool} {steps base size : Nat}
    (all : ∀ place, beyond place = true) : narrow beyond steps base size = base := by
  induction steps generalizing base size with
  | zero => rfl
  | succ steps ih => simp [narrow, all, ih]

theorem narrow_eq_base_or (beyond : Nat → Bool) (steps base size : Nat) :
    narrow beyond steps base size = base ∨ beyond (narrow beyond steps base size) = false := by
  induction steps generalizing base size with
  | zero => exact .inl rfl
  | succ steps ih =>
      simp only [narrow]
      split
      · exact .inl rfl
      · split
        · exact ih base (size - size / 2)
        · rename_i middle
          obtain kept | moved := ih (base + size / 2) (size - size / 2)
          · rw [kept]
            exact .inr (Bool.eq_false_of_not_eq_true middle)
          · exact .inr moved

theorem exists_of_countFirst_eq_succ {last : Nat} (counted : countFirst holds entries = last + 1) :
    ∃ entry, entries[last]? = some entry ∧ holds entry = true := by
  rw [← Option.any_eq_true]
  simp only [countFirst] at counted
  split at counted
  · rename_i beyond
    obtain front | found :=
      narrow_eq_base_or (fun place => !entries[place]?.any holds) entries.size 0 entries.size
    · omega
    · simp [found] at beyond
  · rename_i found
    rw [Nat.add_right_cancel counted] at found
    simpa using found

theorem countFirst_eq {count : Nat} (first : ∀ place < count, entries[place]?.any holds = true)
    (others : ∀ place, count ≤ place → entries[place]?.any holds = false) :
    countFirst holds entries = count := by
  unfold countFirst
  cases count with
  | zero => simp [narrow_of_beyond, others]
  | succ last =>
      have within : last < entries.size := by
        by_contra outside
        simpa [Array.getElem?_eq_none (Nat.le_of_not_lt outside)] using first last (by omega)
      have found : narrow (fun place => !entries[place]?.any holds) entries.size 0 entries.size = last := by
        apply narrow_eq (Nat.zero_le _) (by omega) le_rfl
        · intro place atMost
          simp [first place (by omega)]
        · intro place above _
          simp [others place above]
      simp [found, first last (by omega)]

theorem countFirst_append {first others : List α} (held : ∀ entry ∈ first, holds entry = true)
    (lacked : ∀ entry ∈ others, holds entry = false) :
    countFirst holds (first ++ others).toArray = first.length := by
  apply countFirst_eq
  · intro place below
    simp [List.getElem?_append_left below, List.getElem?_eq_getElem below, held]
  · intro place above
    cases found : others[place - first.length]? with
    | none => simp [List.getElem?_append_right above, found]
    | some entry =>
        simp [List.getElem?_append_right above, found, lacked entry (List.mem_of_getElem? found)]

end Counting

end CanonicalLR
