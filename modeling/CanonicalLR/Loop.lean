/-!
Loops that go on until nothing is left to do. How many turns this takes is not known in advance, so
a loop is run for a number of turns and has no answer if they are too few. `exists_drain` and
`exists_repeatWhile` say that a loop has one if each turn lowers a measure, `acc_turn` that work
which is taken up in any order comes to an end too.
-/

namespace CanonicalLR

variable {α β : Type}

/-- Visits the entries of a queue, from the front, and puts what each visit adds at its end. The
answer has the entries in the order in which they were visited. -/
def drain (visit : α → β → α × List β) : (turns : Nat) → α → (queue : List β) → Option (α × List β)
  | _, value, [] => some (value, [])
  | 0, _, _ :: _ => none
  | turns + 1, value, entry :: rest =>
      let (next, added) := visit value entry
      (drain visit turns next (rest ++ added)).map fun (last, visited) => (last, entry :: visited)

/-- Repeats a round, which tells whether it has changed anything, until it has not. -/
def repeatWhile (round : α → α × Bool) : (rounds : Nat) → α → Option α
  | 0, _ => none
  | rounds + 1, value =>
      match round value with
      | (next, true) => repeatWhile round rounds next
      | (last, false) => some last

/-- A turn of work on entries that wait in no order: one of them is visited, and what the visit adds
waits with the others. -/
inductive Turn (visit : α → β → α × List β) : α × List β → α × List β → Prop where
  | visit {value : α} {entry : β} {waiting rest next : List β}
      (taken : waiting.Perm (entry :: rest)) (left : next.Perm (rest ++ (visit value entry).2)) :
      Turn visit (value, waiting) ((visit value entry).1, next)

theorem drain_cons {visit : α → β → α × List β} {turns : Nat} {value last : α} {entry : β}
    {rest visited : List β}
    (drained : drain visit turns (visit value entry).1 (rest ++ (visit value entry).2) =
      some (last, visited)) :
    drain visit (turns + 1) value (entry :: rest) = some (last, entry :: visited) := by
  simp only [drain, drained, Option.map_some]

theorem exists_drain (visit : α → β → α × List β) (holds : α → List β → Prop)
    (measure : α → List β → Nat)
    (keeps : ∀ value entry rest, holds value (entry :: rest) →
      holds (visit value entry).1 (rest ++ (visit value entry).2))
    (lowers : ∀ value entry rest, holds value (entry :: rest) →
      measure (visit value entry).1 (rest ++ (visit value entry).2) < measure value (entry :: rest))
    {value : α} {queue : List β} (start : holds value queue) :
    ∃ turns last visited, drain visit turns value queue = some (last, visited) ∧ holds last [] := by
  induction size : measure value queue using Nat.strongRecOn generalizing value queue with
  | _ size ih =>
      cases queue with
      | nil => exact ⟨0, value, [], rfl, start⟩
      | cons entry rest =>
          have less := lowers value entry rest start
          rw [size] at less
          obtain ⟨turns, last, visited, drained, final⟩ :=
            ih _ less (keeps value entry rest start) rfl
          exact ⟨turns + 1, last, entry :: visited, drain_cons drained, final⟩

/-- No order of visits goes on for ever if each of them lowers a measure. -/
theorem acc_turn {visit : α → β → α × List β} (holds : α × List β → Prop)
    (measure : α × List β → Nat)
    (keeps : ∀ work next, holds work → Turn visit work next →
      holds next ∧ measure next < measure work)
    {work : α × List β} (start : holds work) : Acc (fun next work => Turn visit work next) work := by
  induction size : measure work using Nat.strongRecOn generalizing work with
  | _ size ih =>
      refine ⟨work, fun next turn => ?_⟩
      obtain ⟨kept, less⟩ := keeps work next start turn
      rw [size] at less
      exact ih _ less kept rfl

theorem exists_repeatWhile (round : α → α × Bool) (holds : α → Prop) (measure : α → Nat)
    (keeps : ∀ value, holds value → holds (round value).1)
    (lowers : ∀ value, holds value → (round value).2 = true →
      measure (round value).1 < measure value)
    {value : α} (start : holds value) :
    ∃ rounds before, repeatWhile round rounds value = some (round before).1 ∧ holds before ∧
      (round before).2 = false := by
  induction size : measure value using Nat.strongRecOn generalizing value with
  | _ size ih =>
      cases changed : (round value).2 with
      | false =>
          refine ⟨1, value, ?_, start, changed⟩
          rw [repeatWhile, ← Prod.eta (round value), changed]
      | true =>
          have less := lowers value start changed
          rw [size] at less
          obtain ⟨rounds, before, ended, final, still⟩ := ih _ less (keeps value start) rfl
          refine ⟨rounds + 1, before, ?_, final, still⟩
          rw [repeatWhile, ← Prod.eta (round value), changed]
          exact ended

end CanonicalLR
