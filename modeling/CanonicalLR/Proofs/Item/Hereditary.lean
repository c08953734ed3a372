import CanonicalLR.Proofs.Derivation.Rewriting
import CanonicalLR.Proofs.Flat.Augmented

namespace CanonicalLR

namespace FlatGrammar
open ItemSystem

def Hereditary (grammar : FlatGrammar) (holds : Symbol → Prop) : Prop :=
  ∀ number production, grammar.HasProduction number production → holds (.nonterminal number) →
    ∀ symbol ∈ production.body, holds symbol

variable {grammar : FlatGrammar} {holds : Symbol → Prop} {front back path : List Symbol}
  {root : Nat} {core : Core} {states : List Nat}

theorem Hereditary.rewritesTo (hereditary : grammar.Hereditary holds)
    (steps : grammar.RewritesTo front back) (start : ∀ symbol ∈ front, holds symbol) :
    ∀ symbol ∈ back, holds symbol := by
  induction steps with
  | refl => exact start
  | tail _ step ih =>
      cases step with
      | expand before after produces =>
          intro symbol member
          simp only [List.mem_append] at member
          rcases member with (inBefore | inBody) | inAfter
          · exact ih symbol (List.mem_append_left _ inBefore)
          · have head := ih _ (List.mem_append_right before List.mem_cons_self)
            exact hereditary _ _ produces head symbol inBody
          · exact ih symbol (List.mem_append_right _ (List.mem_cons_of_mem _ inAfter))

theorem Hereditary.validCore (hereditary : grammar.Hereditary holds)
    (augmented : grammar.Augmented root) (start : holds (.nonterminal root))
    (valid : grammar.ValidCore path core) :
    ∀ symbol ∈ (ofGrammar grammar).remaining core, holds symbol := by
  induction valid with
  | start =>
      rw [augmented.remaining_start]
      intro symbol member
      rw [List.mem_singleton.mp member]
      exact start
  | begun _ predicts ih =>
      obtain ⟨number, production, remains, found, produces⟩ := predicts.exists_production
      rw [predicts.remaining_begun found]
      exact hereditary _ _ produces (ih _ (by rw [remains]; exact List.mem_cons_self))
  | moved _ remains ih =>
      rw [remaining_next remains]
      intro symbol member
      apply ih
      rw [remains]
      exact List.mem_cons_of_mem _ member

theorem Hereditary.trail (hereditary : grammar.Hereditary holds)
    (augmented : grammar.Augmented root) (start : holds (.nonterminal root))
    (trail : grammar.Trail path states) : ∀ symbol ∈ path, holds symbol := by
  induction trail with
  | start => exact fun _ member => absurd member List.not_mem_nil
  | move earlier leads ih =>
      obtain ⟨core, rest, valid, remains⟩ := earlier.exists_core leads
      intro symbol member
      rcases List.mem_cons.mp member with rfl | later
      · apply hereditary.validCore augmented start valid
        rw [remains]
        exact List.mem_cons_self
      · exact ih symbol later

end FlatGrammar

end CanonicalLR
