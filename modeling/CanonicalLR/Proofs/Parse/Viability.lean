import CanonicalLR.Proofs.Item.Hereditary
import CanonicalLR.Proofs.Parse.Lookahead

namespace CanonicalLR

namespace FlatGrammar
open ItemSystem

variable {grammar : FlatGrammar} {root : Nat} {path symbols rest : List Symbol} {core : Core}
  {terminal : Terminal}

/-! ### Contexts -/

theorem rewritesTo_of_predicts {begun : Core} {before after : List Symbol}
    (predicts : (ofGrammar grammar).Predicts core begun rest) :
    grammar.RewritesTo (before ++ (ofGrammar grammar).remaining core ++ after)
      (before ++ (ofGrammar grammar).remaining begun ++ (rest ++ after)) := by
  obtain ⟨number, production, remains, found, produces⟩ := predicts.exists_production
  have body : (ofGrammar grammar).remaining begun = production.body :=
    predicts.remaining_begun found
  have step := Rewrites.expand before (rest ++ after) produces
  rw [remains, body, List.append_assoc, List.cons_append]
  exact .single step

theorem form_moved {symbol : Symbol} (after : List Symbol)
    (remains : (ofGrammar grammar).remaining core = symbol :: rest) :
    (symbol :: path).reverse ++ (ofGrammar grammar).remaining core.next ++ after =
      path.reverse ++ (ofGrammar grammar).remaining core ++ after := by
  rw [remaining_next remains, remains, List.reverse_cons, List.append_assoc _ [symbol]]
  rfl

theorem ValidCore.context (augmented : grammar.Augmented root)
    (valid : grammar.ValidCore path core) :
    ∃ after, grammar.RewritesTo [.nonterminal root]
      (path.reverse ++ (ofGrammar grammar).remaining core ++ after) := by
  induction valid with
  | start =>
      refine ⟨[], ?_⟩
      rw [augmented.remaining_start]
      exact .refl
  | begun _ predicts ih =>
      obtain ⟨after, form⟩ := ih
      exact ⟨_, form.trans (rewritesTo_of_predicts predicts)⟩
  | moved _ remains ih =>
      obtain ⟨after, form⟩ := ih
      refine ⟨after, ?_⟩
      rw [form_moved after remains]
      exact form

def Heads (grammar : FlatGrammar) (symbols : List Symbol) (terminal : Terminal) : Prop :=
  grammar.Begins symbols terminal ∨ grammar.Vanishes symbols ∧ terminal = Terminal.eof

theorem Heads.behind (heads : grammar.Heads rest terminal) (vanishes : grammar.Vanishes symbols) :
    grammar.Heads (symbols ++ rest) terminal := by
  rcases heads with begins | ⟨nothing, atEnd⟩
  · obtain ⟨trees, derives, leaves⟩ := vanishes
    exact .inl (.behind derives leaves begins)
  · exact .inr ⟨vanishes.append nothing, atEnd⟩

theorem ValidItem.context (augmented : grammar.Augmented root)
    (valid : grammar.ValidItem path core terminal) :
    ∃ after, grammar.RewritesTo [.nonterminal root]
      (path.reverse ++ (ofGrammar grammar).remaining core ++ after) ∧
      grammar.Heads after terminal := by
  induction valid with
  | start =>
      refine ⟨[], ?_, .inr ⟨vanishes_nil, rfl⟩⟩
      rw [augmented.remaining_start]
      exact .refl
  | first valid predicts begins =>
      obtain ⟨after, form⟩ := valid.context augmented
      exact ⟨_, form.trans (rewritesTo_of_predicts predicts), .inl (begins.append after)⟩
  | inherited _ predicts vanishes ih =>
      obtain ⟨after, form, heads⟩ := ih
      exact ⟨_, form.trans (rewritesTo_of_predicts predicts), heads.behind vanishes⟩
  | moved _ remains ih =>
      obtain ⟨after, form, heads⟩ := ih
      refine ⟨after, ?_, heads⟩
      rw [form_moved after remains]
      exact form

theorem MayFollow.context (augmented : grammar.Augmented root)
    (valid : grammar.ValidCore path core)
    (follows : grammar.MayFollow path core ((ofGrammar grammar).remaining core) terminal) :
    ∃ after, grammar.RewritesTo [.nonterminal root] (path.reverse ++ after) ∧
      grammar.Heads after terminal := by
  rcases follows with begins | ⟨vanishes, item⟩
  · obtain ⟨after, form⟩ := valid.context augmented
    rw [List.append_assoc] at form
    exact ⟨_, form, .inl (begins.append after)⟩
  · obtain ⟨after, form, heads⟩ := item.context augmented
    rw [List.append_assoc] at form
    exact ⟨_, form, heads.behind vanishes⟩

/-! ### Completion of forms -/

def Productive (grammar : FlatGrammar) (holds : Symbol → Prop) : Prop :=
  ∀ symbol, holds symbol → ∃ tree, grammar.Derives [symbol] [tree]

variable {holds : Symbol → Prop}

theorem Productive.derives (productive : grammar.Productive holds)
    (all : ∀ symbol ∈ symbols, holds symbol) : ∃ trees, grammar.Derives symbols trees := by
  induction symbols with
  | nil => exact ⟨[], .nil⟩
  | cons symbol rest ih =>
      rw [List.forall_mem_cons] at all
      obtain ⟨tree, first⟩ := productive symbol all.1
      obtain ⟨trees, later⟩ := ih all.2
      exact ⟨tree :: trees, first.append later⟩

theorem Hereditary.begins (hereditary : grammar.Hereditary holds)
    (begins : grammar.Begins symbols terminal) (all : ∀ symbol ∈ symbols, holds symbol) :
    holds (.terminal terminal) := by
  induction begins with
  | terminal terminal rest => exact all _ List.mem_cons_self
  | nonterminal produces _ ih =>
      exact ih (hereditary _ _ produces (all _ List.mem_cons_self))
  | skip _ _ ih => exact ih (List.forall_mem_cons.mp all).2

theorem Heads.vanishes (heads : grammar.Heads symbols Terminal.eof)
    (hereditary : grammar.Hereditary holds) (unmentioned : ¬ holds (.terminal Terminal.eof))
    (all : ∀ symbol ∈ symbols, holds symbol) : grammar.Vanishes symbols := by
  rcases heads with begins | ⟨vanishes, _⟩
  · exact absurd (hereditary.begins begins all) unmentioned
  · exact vanishes

theorem Heads.begins (heads : grammar.Heads symbols terminal) (inner : terminal ≠ Terminal.eof) :
    grammar.Begins symbols terminal := by
  rcases heads with begins | ⟨_, atEnd⟩
  · exact begins
  · exact absurd atEnd inner

end FlatGrammar

end CanonicalLR
