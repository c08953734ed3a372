import CanonicalLR.Grammar.Rule
import CanonicalLR.Proofs.Item.Validity

namespace CanonicalLR

namespace FlatGrammar
open ItemSystem

/-- A grammar with a start symbol added for the nonterminal with number `root`. -/
structure Augmented (grammar : FlatGrammar) (root : Nat) : Prop where
  start : grammar.productions[0]? = some ⟨Rule.startName, [.nonterminal root]⟩
  single : ∀ {index : Nat} {production : Production},
    grammar.productions[index]? = some production → production.head = Rule.startName → index = 0
  head : ∀ name, grammar.headIndex? name = nonterminalIndex? grammar.nonterminals name

def StartUnused (grammar : FlatGrammar) : Prop :=
  ∀ production ∈ grammar.productions, ∀ number, grammar.headIndex? Rule.startName = some number →
    .nonterminal number ∉ production.body

variable {grammar : FlatGrammar} {root : Nat} {path : List Symbol} {core : Core}

theorem Augmented.remaining_start (augmented : grammar.Augmented root) :
    (ofGrammar grammar).remaining ⟨0, 0⟩ = [.nonterminal root] :=
  remaining_of_production ⟨0, 0⟩ augmented.start

theorem StartUnused.head_ne (unused : grammar.StartUnused) {rest : List Symbol} {number : Nat}
    (remains : (ofGrammar grammar).remaining core = .nonterminal number :: rest)
    {production : Production} (produces : grammar.HasProduction number production) :
    production.head ≠ Rule.startName := by
  intro same
  obtain ⟨holder, found, body⟩ := exists_production_of_remaining remains
  have occurs : .nonterminal number ∈ holder.body := by
    apply List.mem_of_mem_drop (i := core.dot)
    rw [body]
    exact List.mem_cons_self
  apply unused holder (Array.mem_of_getElem? found) number _ occurs
  rw [← same]
  exact produces.2

theorem StartUnused.not_predicts (unused : grammar.StartUnused) (augmented : grammar.Augmented root)
    {begun : Core} {rest : List Symbol} (predicts : (ofGrammar grammar).Predicts core begun rest) :
    begun.production ≠ 0 := by
  intro zero
  obtain ⟨number, production, remains, found, produces⟩ := predicts.exists_production
  apply unused.head_ne remains produces
  rw [zero, augmented.start] at found
  cases found
  rfl

theorem Augmented.complete_start (augmented : grammar.Augmented root)
    (unused : grammar.StartUnused) {terminal : Terminal} (zero : core.production = 0)
    (valid : grammar.ValidItem path core terminal)
    (complete : (ofGrammar grammar).remaining core = []) :
    path = [.nonterminal root] ∧ terminal = Terminal.eof := by
  obtain ⟨front, below, split, whole, begun⟩ := valid.origin
  rw [zero] at whole begun
  rw [augmented.remaining_start, complete, List.append_nil] at whole
  rcases begun.beginning rfl with ⟨rfl, _, rfl⟩ | ⟨before, rest, _, predicts, _⟩
  · rw [split, ← whole]
    exact ⟨rfl, rfl⟩
  · exact absurd rfl (unused.not_predicts augmented predicts)

end FlatGrammar

end CanonicalLR
