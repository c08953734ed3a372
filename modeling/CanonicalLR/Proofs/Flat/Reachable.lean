import CanonicalLR.Proofs.Flat.Language
import CanonicalLR.Proofs.Grammar.Unfolding
import CanonicalLR.Proofs.Item.Hereditary

namespace CanonicalLR

namespace Grammar

/-- Whether a terminal is written in a rule that the root refers to. -/
def Mentions (grammar : Grammar) (root : RuleId) (terminal : Terminal) : Prop :=
  ∃ id body, grammar.Refers root id ∧ grammar.bodyOf? id = some body ∧
    terminal ∈ bodyTerminals body

/-- Whether operations hold only what is written in rules that the root refers to. -/
structure Covers (grammar : Grammar) (root : RuleId) (ops : List Op) : Prop where
  references : ∀ id ∈ bodyReferences ops, grammar.Refers root id
  terminals : ∀ terminal ∈ bodyTerminals ops, grammar.Mentions root terminal

variable {grammar : Grammar} {root id : RuleId} {op : Op} {body rest : List Op}
  {more : List (List Op)}

theorem covers_of_refers (reachable : grammar.Refers root id)
    (defined : grammar.bodyOf? id = some body) : grammar.Covers root body := by
  constructor
  · intro other refers
    apply reachable.tail
    rw [references, defined]
    exact refers
  · intro terminal member
    exact ⟨id, body, reachable, defined, member⟩

theorem Covers.of_subset {ops others : List Op} (covers : grammar.Covers root ops)
    (references : bodyReferences others ⊆ bodyReferences ops)
    (terminals : bodyTerminals others ⊆ bodyTerminals ops) : grammar.Covers root others :=
  ⟨fun id refers => covers.references id (references refers),
    fun terminal member => covers.terminals terminal (terminals member)⟩

theorem Covers.tail (covers : grammar.Covers root (op :: rest)) : grammar.Covers root rest :=
  covers.of_subset (List.subset_append_right _ _) (List.subset_append_right _ _)

theorem Covers.option (covers : grammar.Covers root (.option body :: rest)) :
    grammar.Covers root body :=
  covers.of_subset (List.subset_append_left _ _) (List.subset_append_left _ _)

theorem Covers.many (covers : grammar.Covers root (.many body :: rest)) :
    grammar.Covers root body :=
  covers.of_subset (List.subset_append_left _ _) (List.subset_append_left _ _)

theorem Covers.alternative (covers : grammar.Covers root (.choice (body :: more) :: rest)) :
    grammar.Covers root body := by
  apply covers.of_subset
  · exact List.subset_append_of_subset_left _ (List.subset_append_left _ _)
  · exact List.subset_append_of_subset_left _ (List.subset_append_left _ _)

theorem Covers.alternatives (covers : grammar.Covers root (.choice (body :: more) :: rest)) :
    grammar.Covers root (.choice more :: rest) := by
  have dropped {α : Type} (front middle back : List α) :
      middle ++ back ⊆ front ++ middle ++ back := by
    rw [List.append_assoc]
    exact List.subset_append_right _ _
  exact covers.of_subset (dropped _ _ _) (dropped _ _ _)

theorem Covers.of_mem (covers : grammar.Covers root body) (member : op ∈ body) :
    grammar.Covers root [op] := by
  induction body with
  | nil => cases member
  | cons first rest ih =>
      rcases List.mem_cons.mp member with rfl | later
      · apply covers.of_subset
        · exact List.append_subset.mpr ⟨List.subset_append_left _ _, List.nil_subset _⟩
        · exact List.append_subset.mpr ⟨List.subset_append_left _ _, List.nil_subset _⟩
      · exact ih covers.tail later

theorem Covers.of_encloses (covers : grammar.Covers root [op]) (encloses : op.Encloses body) :
    grammar.Covers root body := by
  cases encloses with
  | option => exact covers.option
  | many => exact covers.many
  | @choice alternatives _ member =>
      induction alternatives with
      | nil => cases member
      | cons alternative more ih =>
          rcases List.mem_cons.mp member with rfl | later
          · exact covers.alternative
          · exact ih covers.alternatives later

theorem Covers.written (covers : grammar.Covers root body) (written : Written op body) :
    grammar.Covers root [op] := by
  induction written with
  | here member => exact covers.of_mem member
  | inside member encloses _ ih => exact ih ((covers.of_mem member).of_encloses encloses)

end Grammar

namespace Expansion
open FlatGrammar

inductive Leads (grammar : Grammar) (root : RuleId) (expansion : Expansion) : Symbol → Prop where
  | terminal {terminal : Terminal} (mentioned : grammar.Mentions root terminal) :
      Leads grammar root expansion (.terminal terminal)
  | rule {id : RuleId} {rule : Rule} {number : Nat} (reachable : grammar.Refers root id)
      (found : grammar.get? id = some rule) (numbered : expansion.number? rule.name = some number) :
      Leads grammar root expansion (.nonterminal number)
  | many {body : List Op} {rounds : Language Symbol} {repetition number : Nat}
      (numbered : expansion.number? (repetitionName repetition) = some number)
      (bodies : languageOf (expansion.bodiesOf (repetitionName repetition)) =
        1 + rounds * {[.nonterminal number]})
      (inner : expansion.Compiled grammar body rounds) (covers : grammar.Covers root body) :
      Leads grammar root expansion (.nonterminal number)

variable {grammar : Grammar} {start : Nat} {all : List RuleId} {expansion : Expansion}
  {root : RuleId} {first second : Language Symbol}

def LeadsInto (grammar : Grammar) (root : RuleId) (expansion : Expansion)
    (language : Language Symbol) : Prop :=
  ∀ symbols ∈ language, ∀ symbol ∈ symbols, Leads grammar root expansion symbol

theorem leadsInto_one : LeadsInto grammar root expansion 1 := by
  intro symbols one
  rw [(Language.mem_one symbols).mp one]
  exact fun _ occurs => absurd occurs List.not_mem_nil

theorem Leads.singleton {symbol : Symbol} (leads : Leads grammar root expansion symbol) :
    LeadsInto grammar root expansion {[symbol]} := by
  rintro symbols rfl other occurs
  rw [List.mem_singleton.mp occurs]
  exact leads

theorem LeadsInto.add (left : LeadsInto grammar root expansion first)
    (right : LeadsInto grammar root expansion second) :
    LeadsInto grammar root expansion (first + second) := by
  intro symbols member
  rcases (Language.mem_add _ _ _).mp member with inFirst | inSecond
  · exact left symbols inFirst
  · exact right symbols inSecond

theorem LeadsInto.mul (left : LeadsInto grammar root expansion first)
    (right : LeadsInto grammar root expansion second) :
    LeadsInto grammar root expansion (first * second) := by
  intro symbols member
  obtain ⟨front, inFirst, back, inSecond, rfl⟩ := Language.mem_mul.mp member
  intro symbol occurs
  rcases List.mem_append.mp occurs with inFront | inBack
  · exact left front inFirst symbol inFront
  · exact right back inSecond symbol inBack

theorem Compiled.leadsInto {ops : List Op} {language : Language Symbol}
    (compiled : expansion.Compiled grammar ops language) (covers : grammar.Covers root ops) :
    LeadsInto grammar root expansion language := by
  induction compiled with
  | nil => exact leadsInto_one
  | consume terminal _ ih =>
      have mentioned := covers.terminals terminal List.mem_cons_self
      exact (Leads.terminal mentioned).singleton.mul (ih covers.tail)
  | subRule found numbered _ ih =>
      have reachable := covers.references _ List.mem_cons_self
      exact (Leads.rule reachable found numbered).singleton.mul (ih covers.tail)
  | option _ _ ihInner ihTail =>
      exact (leadsInto_one.add (ihInner covers.option)).mul (ihTail covers.tail)
  | choiceNil rest => exact fun _ member => absurd member (Language.notMem_zero _)
  | choiceCons _ _ _ ihInner ihTail ihLater =>
      have here := (ihInner covers.alternative).mul (ihTail covers.tail)
      exact here.add (ihLater covers.alternatives)
  | group name members _ ih =>
      refine LeadsInto.mul ?_ (ih covers.tail)
      intro symbols member
      obtain ⟨terminal, listed, rfl⟩ := List.mem_map.mp member
      have mentioned := covers.terminals terminal (List.mem_append_left _ listed)
      exact (Leads.terminal mentioned).singleton _ rfl
  | many numbered bodies inner _ _ ihTail =>
      exact (Leads.many numbered bodies inner covers.many).singleton.mul (ihTail covers.tail)

theorem Flattened.mem_of_refers (invariant : Flattened grammar start [] all expansion)
    (rootIn : root ∈ all) {id : RuleId} (reachable : grammar.Refers root id) : id ∈ all := by
  induction reachable with
  | refl => exact rootIn
  | tail _ refers ih => exact (invariant.closed _ ih _ refers).resolve_right List.not_mem_nil

theorem Flattened.hereditary_leads (invariant : Flattened grammar start [] all expansion)
    (apart : grammar.NamesApart) (rootIn : root ∈ all) {rule : Rule}
    (found : grammar.get? root = some rule) (numbered : expansion.number? rule.name = some start) :
    expansion.flat.Hereditary (Leads grammar root expansion) := by
  intro number production produces leads
  have listed : production.body ∈ languageOf (expansion.bodiesOf production.head) :=
    mem_bodiesOf.mpr produces.1
  have owner := produces.2
  rw [(invariant.augmented apart).head, invariant.tidy.nonterminalIndex?_eq_some_iff apart] at owner
  rcases owner with own | ⟨same, _⟩
  · cases leads with
    | rule reachable foundOther numberedOther =>
        obtain ⟨body, defined, compiled, _⟩ :=
          invariant.compiled (invariant.mem_of_refers rootIn reachable) foundOther
        rw [number?_injective invariant.tidy own numberedOther] at listed
        exact compiled.leadsInto (Grammar.covers_of_refers reachable defined) _ listed
    | many numberedOther bodies inner covers =>
        rw [number?_injective invariant.tidy own numberedOther, bodies] at listed
        have again := (Leads.many numberedOther bodies inner covers).singleton
        exact leadsInto_one.add ((inner.leadsInto covers).mul again) _ listed
  · rw [same, invariant.single] at listed
    exact (Leads.rule .refl found numbered).singleton _ (List.mem_singleton.mp listed)

end Expansion

end CanonicalLR
