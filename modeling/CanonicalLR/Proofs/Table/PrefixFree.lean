import CanonicalLR.Proofs.Item.Subset
import CanonicalLR.Proofs.Table.Slots

namespace CanonicalLR

namespace FlatGrammar
open ItemSystem

/-- Nonterminals stand at the front of bodies only, and no body begins with another one. -/
structure PrefixFree (grammar : FlatGrammar) : Prop where
  front : ∀ production ∈ grammar.productions, ∀ number, .nonterminal number ∉ production.body.tail
  apart : ∀ (first second : Nat) (production other : Production),
    grammar.productions[first]? = some production → grammar.productions[second]? = some other →
    production.body <+: other.body → first = second

variable {grammar : FlatGrammar} {path rest : List Symbol} {core : Core} {state : Nat}
  {below : List Nat} {terminal : Terminal} {action other : Action}

theorem PrefixFree.dot_eq_zero (free : grammar.PrefixFree) {number : Nat}
    (remains : (ofGrammar grammar).remaining core = .nonterminal number :: rest) : core.dot = 0 := by
  obtain ⟨production, found, body⟩ := exists_production_of_remaining remains
  cases zero : core.dot with
  | zero => rfl
  | succ dot =>
      rw [zero, ← List.drop_tail] at body
      have inTail : .nonterminal number ∈ production.body.tail := by
        apply List.mem_of_mem_drop (i := dot)
        rw [body]
        exact List.mem_cons_self
      exact absurd inTail (free.front production (Array.mem_of_getElem? found) number)

theorem PrefixFree.path_eq_nil (free : grammar.PrefixFree) (valid : grammar.ValidCore path core)
    (zero : core.dot = 0) : path = [] := by
  induction valid with
  | start => rfl
  | begun _ predicts ih =>
      obtain ⟨_, remains, _⟩ := predicts
      exact ih (free.dot_eq_zero remains)
  | moved => cases zero

/-- Where a core is valid, what stands before its dot has been read, and nothing else. -/
theorem PrefixFree.body_eq (free : grammar.PrefixFree) (valid : grammar.ValidCore path core)
    {production : Production} (found : grammar.productions[core.production]? = some production) :
    production.body = path.reverse ++ (ofGrammar grammar).remaining core := by
  obtain ⟨front, below, split, whole, begun⟩ := valid.origin
  rw [free.path_eq_nil begun rfl, List.append_nil] at split
  rw [split, List.reverse_reverse, ← whole]
  exact (remaining_of_production ⟨core.production, 0⟩ found).symm

theorem PrefixFree.claims_unique (free : grammar.PrefixFree)
    (claims : grammar.Claims path state terminal action)
    (also : grammar.Claims path state terminal other) : action = other := by
  -- The body of a complete item is all that has been read, so that every other body begins with it.
  have alone {core shifted : Core} {production : Production} {rest : List Symbol}
      (valid : grammar.ValidCore path core) (complete : (ofGrammar grammar).remaining core = [])
      (found : grammar.productions[core.production]? = some production)
      (standing : grammar.ValidCore path shifted)
      (remains : (ofGrammar grammar).remaining shifted = .terminal terminal :: rest) : False := by
    obtain ⟨longer, foundLonger, _⟩ := exists_production_of_remaining remains
    have body := free.body_eq valid found
    have bodyLonger := free.body_eq standing foundLonger
    rw [complete, List.append_nil] at body
    have same := free.apart _ _ _ _ found foundLonger (by
      rw [body, bodyLonger]
      exact List.prefix_append _ _)
    rw [same] at found
    obtain rfl : production = longer := Option.some.inj (found.symm.trans foundLonger)
    rw [body, remains] at bodyLonger
    simp at bodyLonger
  cases claims with
  | shift valid remains leads =>
      cases also with
      | shift _ _ leadsAlso =>
          rw [leads] at leadsAlso
          rw [Option.some.inj leadsAlso]
      | completion found complete item => exact (alone item.validCore complete found valid remains).elim
  | completion found complete item =>
      cases also with
      | shift valid remains _ => exact (alone item.validCore complete found valid remains).elim
      | completion foundAlso completeAlso itemAlso =>
          have body := free.body_eq item.validCore found
          have bodyAlso := free.body_eq itemAlso.validCore foundAlso
          rw [complete] at body
          rw [completeAlso, ← body] at bodyAlso
          have same := free.apart _ _ _ _ found foundAlso (by rw [bodyAlso])
          rw [same] at found ⊢
          rw [Option.some.inj (found.symm.trans foundAlso)]

theorem Trail.mem_claimsTo (trail : grammar.Trail path (state :: below)) :
    action ∈ grammar.claimsTo state terminal ↔ grammar.Claims path state terminal action := by
  obtain ⟨held, present, claims⟩ := trail.mem_claims
  rw [claimsTo, present, Option.map_some, Option.getD_some, ← slot_claims, mem_slot]
  exact claims terminal action

theorem exists_trail_of_mem_claimsTo (claimed : action ∈ grammar.claimsTo state terminal) :
    ∃ path below, grammar.Trail path (state :: below) := by
  have less : state < (ofGrammar grammar).automaton.states.size := by
    by_contra outside
    rw [claimsTo, Array.getElem?_eq_none (Nat.le_of_not_lt outside)] at claimed
    cases claimed
  obtain ⟨symbols, walks⟩ := exists_walk less
  exact ⟨symbols.reverse, walk?_eq_some_iff.mp walks⟩

theorem PrefixFree.conflicts_eq_nil (free : grammar.PrefixFree) (vocabulary : Vocabulary) :
    (Table.canonical vocabulary grammar).conflicts = [] := by
  rw [Table.conflicts_eq_nil_iff]
  intro state terminal first member second memberSecond
  obtain ⟨path, below, trail⟩ := exists_trail_of_mem_claimsTo member
  exact free.claims_unique (trail.mem_claimsTo.mp member) (trail.mem_claimsTo.mp memberSecond)

end FlatGrammar

end CanonicalLR
