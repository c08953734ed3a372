import CanonicalLR.Proofs.Derivation.Basic
import Mathlib.Logic.Relation

namespace CanonicalLR

namespace FlatGrammar

inductive Rewrites (grammar : FlatGrammar) : List Symbol → List Symbol → Prop where
  | expand {head : Nat} {production : Production} (before after : List Symbol)
      (produces : grammar.HasProduction head production) :
      Rewrites grammar (before ++ .nonterminal head :: after) (before ++ production.body ++ after)

def RewritesTo (grammar : FlatGrammar) : List Symbol → List Symbol → Prop :=
  Relation.ReflTransGen grammar.Rewrites

variable {grammar : FlatGrammar}

theorem Rewrites.surround {front back : List Symbol} (step : grammar.Rewrites front back)
    (before after : List Symbol) :
    grammar.Rewrites (before ++ front ++ after) (before ++ back ++ after) := by
  cases step with
  | expand inner outer produces =>
      have widened := Rewrites.expand (before ++ inner) (outer ++ after) produces
      simpa only [List.append_assoc, List.cons_append] using widened

theorem RewritesTo.surround {front back : List Symbol} (steps : grammar.RewritesTo front back)
    (before after : List Symbol) :
    grammar.RewritesTo (before ++ front ++ after) (before ++ back ++ after) := by
  induction steps with
  | refl => exact .refl
  | tail _ step ih => exact ih.tail (step.surround before after)

theorem RewritesTo.append {front front' back back' : List Symbol}
    (first : grammar.RewritesTo front front') (second : grammar.RewritesTo back back') :
    grammar.RewritesTo (front ++ back) (front' ++ back') := by
  have left := first.surround [] back
  have right := second.surround front' []
  simp only [List.nil_append, List.append_nil] at left right
  exact left.trans right

theorem RewritesTo.of_production {head : Nat} {production : Production}
    (produces : grammar.HasProduction head production) :
    grammar.RewritesTo [.nonterminal head] production.body := by
  have step := Rewrites.expand [] [] produces
  rw [List.nil_append, List.nil_append, List.append_nil] at step
  exact .single step

def spelled (trees : List Tree) : List Terminal :=
  (forestLeaves trees).map (·.kind)

theorem Derives.rewritesTo {symbols : List Symbol} {trees : List Tree}
    (derives : grammar.Derives symbols trees) :
    grammar.RewritesTo symbols ((spelled trees).map .terminal) := by
  induction derives with
  | nil => exact .refl
  | terminal token _ ih =>
      have kept : grammar.RewritesTo [.terminal token.kind] [.terminal token.kind] := .refl
      exact kept.append ih
  | @nonterminal head production children rest trees produces _ _ ihInner ihTail =>
      have joined := RewritesTo.append ((RewritesTo.of_production produces).trans ihInner) ihTail
      simpa only [spelled, forestLeaves, Tree.leaves, List.map_append,
        List.singleton_append] using joined

theorem Derives.of_rewrites {front back : List Symbol} {trees : List Tree}
    (step : grammar.Rewrites front back) (derives : grammar.Derives back trees) :
    ∃ folded, grammar.Derives front folded ∧ forestLeaves folded = forestLeaves trees := by
  cases step with
  | @expand head production before after produces =>
      obtain ⟨most, last, rfl, inMost, inLast⟩ := derives.split
      obtain ⟨first, children, rfl, inFirst, inBody⟩ := inMost.split
      refine ⟨first ++ .node production.head children :: last, ?_, ?_⟩
      · exact inFirst.append (.nonterminal produces inBody inLast)
      · simp only [forestLeaves_append, forestLeaves, Tree.leaves, List.append_assoc]

def tokenOfKind (kind : Terminal) : Token :=
  ⟨"", "", kind, 1, 1, 1, 0, 0⟩

theorem derives_terminals (word : List Terminal) :
    ∃ trees, grammar.Derives (word.map .terminal) trees ∧ spelled trees = word := by
  induction word with
  | nil => exact ⟨[], .nil, rfl⟩
  | cons kind rest ih =>
      obtain ⟨trees, derives, spells⟩ := ih
      refine ⟨.leaf (tokenOfKind kind) :: trees, .terminal (tokenOfKind kind) derives, ?_⟩
      simp only [spelled] at spells
      simp [spelled, forestLeaves, Tree.leaves, spells, tokenOfKind]

theorem rewritesTo_iff_derives {symbols : List Symbol} {word : List Terminal} :
    grammar.RewritesTo symbols (word.map .terminal) ↔
      ∃ trees, grammar.Derives symbols trees ∧ spelled trees = word := by
  constructor
  · intro steps
    induction steps using Relation.ReflTransGen.head_induction_on with
    | refl => exact derives_terminals word
    | head step _ ih =>
        obtain ⟨trees, derives, spells⟩ := ih
        obtain ⟨folded, derivesFront, leaves⟩ := derives.of_rewrites step
        exact ⟨folded, derivesFront, by rw [spelled, leaves]; exact spells⟩
  · rintro ⟨trees, derives, rfl⟩
    exact derives.rewritesTo

end FlatGrammar

end CanonicalLR
