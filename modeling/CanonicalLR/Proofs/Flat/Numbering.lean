import CanonicalLR.Proofs.Flat.Sources
import CanonicalLR.Proofs.Flat.Success
import Mathlib.Algebra.Order.BigOperators.Group.List
import Mathlib.Algebra.Order.Group.Nat

namespace CanonicalLR

variable {entries : List NonterminalEntry}

theorem nonterminalName?_index (nodup : (entries.map (·.index)).Nodup) {entry : NonterminalEntry}
    (member : entry ∈ entries) : nonterminalName? entries entry.index = some entry.name := by
  rw [nonterminalName?, Option.map_eq_some_iff]
  cases found : entries.find? (·.index == entry.index) with
  | none =>
      have differs := List.find?_eq_none.mp found entry member
      rw [beq_self_eq_true] at differs
      exact absurd rfl differs
  | some other =>
      have same : other.index = entry.index := by simpa using List.find?_some found
      have equal := List.inj_on_of_nodup_map nodup (List.mem_of_find?_eq_some found) member same
      exact ⟨other, rfl, by rw [equal]⟩

theorem nodup_indices_iff (names : (entries.map (·.name)).Nodup) :
    (entries.map (·.index)).Nodup ↔ ∀ entry ∈ entries,
      (nonterminalIndex? entries entry.name).bind (nonterminalName? entries) = some entry.name := by
  have numbered (entry : NonterminalEntry) (member : entry ∈ entries) :
      (nonterminalIndex? entries entry.name).bind (nonterminalName? entries) =
        nonterminalName? entries entry.index := by
    rw [(nonterminalIndex?_eq_some_iff names).mpr member]
    rfl
  refine ⟨fun nodup entry member => ?_, fun back => ?_⟩
  · rw [numbered entry member, nonterminalName?_index nodup member]
  refine (List.nodup_map_iff_inj_on (List.Nodup.of_map _ names)).mpr ?_
  intro first member second memberSecond same
  have named := back first member
  rw [numbered first member, same, ← numbered second memberSecond, back second memberSecond] at named
  exact List.inj_on_of_nodup_map names member memberSecond (Option.some.inj named).symm

namespace Expansion

variable {grammar : Grammar} {root : RuleId} {start : Nat} {todo all : List RuleId}
  {expansion : Expansion}

theorem indices_entries (expansion : Expansion) : expansion.entries.map (·.index) =
    List.range' firstNonterminal expansion.names.size ++ [startNonterminal] := by
  rw [entries, List.map_append, List.map_singleton]
  congr 1
  apply List.ext_getElem
  · simp
  · intro place _ _
    simp

theorem nodup_indices_entries_iff (expansion : Expansion) :
    (expansion.entries.map (·.index)).Nodup ↔ expansion.entries.length ≤ 90000 := by
  have met : startNonterminal ∈ List.range' firstNonterminal expansion.names.size ↔
      90000 ≤ expansion.names.size := by
    rw [List.mem_range'_1, startNonterminal, firstNonterminal]
    omega
  rw [indices_entries, length_entries, List.nodup_append_comm, List.singleton_append,
    List.nodup_cons, met, Nat.not_le]
  exact and_iff_left List.nodup_range'

theorem Sourced.repetitions_le (sourced : Sourced grammar root todo expansion) :
    expansion.repetitions ≤ expansion.names.size := by
  have nodup : ((List.range expansion.repetitions).map repetitionName).Nodup :=
    List.nodup_range.map repetitionName_injective
  have named : (List.range expansion.repetitions).map repetitionName ⊆ expansion.names.toList := by
    intro name member
    obtain ⟨repetition, less, rfl⟩ := List.mem_map.mp member
    obtain ⟨_, _, number, _, numbered, _⟩ :=
      sourced.repetitions repetition (List.mem_range.mp less)
    obtain ⟨place, found, _⟩ := (number?_eq_some_iff sourced.tidy.nodup).mp numbered
    exact Array.mem_toList_iff.mpr (Array.mem_of_getElem? found)
  have le := (nodup.subperm named).length_le
  rwa [List.length_map, List.length_range, Array.length_toList] at le

end Expansion

namespace Grammar
open Expansion

variable {grammar : Grammar} {root : RuleId} {flat : FlatGrammar}

/-- Numbers tell nonterminals apart if there are fewer than ninety thousand beside the start symbol,
and only then: names are found again by number, and the productions of a number have one head. -/
theorem indices_identify_iff (constructed : grammar.Constructed)
    (flattened : (grammar.flatten root).1 = .ok flat) :
    ((flat.nonterminals.map (·.index)).Nodup ↔ flat.nonterminals.length ≤ 90000) ∧
    ((∀ entry ∈ flat.nonterminals, (nonterminalIndex? flat.nonterminals entry.name).bind
      (nonterminalName? flat.nonterminals) = some entry.name) ↔
        flat.nonterminals.length ≤ 90000) ∧
    (flat.nonterminals.length ≤ 90000 → ∀ number production other,
      flat.HasProduction number production → flat.HasProduction number other →
        production.head = other.head) := by
  have apart := constructed.namesApart
  obtain ⟨expansion, start, all, _, rfl, invariant, _⟩ := flattened_of_flatten apart flattened
  have names := invariant.tidy.nodup_entries apart
  have few := nodup_indices_entries_iff expansion
  refine ⟨few, (nodup_indices_iff names).symm.trans few, ?_⟩
  intro bound number production other produces produced
  have listed {production : Production} (produces : expansion.flat.HasProduction number production) :
      { name := production.head, index := number } ∈ expansion.entries := by
    have owner := produces.2
    rw [(invariant.augmented apart).head] at owner
    exact (nonterminalIndex?_eq_some_iff names).mp owner
  exact congrArg NonterminalEntry.name
    (List.inj_on_of_nodup_map (few.mpr bound) (listed produces) (listed produced) rfl)

theorem indices_identify_iff_itemList :
    itemList.Constructed ∧ (itemList.flatten 0).1 = .ok flatItemList ∧
      flatItemList.nonterminals.map (·.index) = [10000, 10001, 99999] ∧
      (flatItemList.nonterminals.map (·.index)).Nodup ∧
      nonterminalIndex? flatItemList.nonterminals "MANY_0" = some 10001 ∧
      nonterminalName? flatItemList.nonterminals 10001 = some "MANY_0" ∧
      ∀ production, flatItemList.HasProduction 10001 production → production.head = "MANY_0" := by
  obtain ⟨distinct, found, apart⟩ := indices_identify_iff constructed_itemList flatten_itemList
  have few : flatItemList.nonterminals.length ≤ 90000 := by decide
  have repetition : nonterminalIndex? flatItemList.nonterminals "MANY_0" = some 10001 := by decide
  have back := found.mpr few ⟨"MANY_0", 10001⟩ (by decide)
  rw [repetition, Option.bind_some] at back
  have empty : flatItemList.HasProduction 10001 ⟨"MANY_0", []⟩ := by decide +kernel
  exact ⟨constructed_itemList, flatten_itemList, rfl, distinct.mpr few, repetition, back,
    fun production produces => apart few 10001 production _ produces empty⟩

/-! ### A crowded grammar -/

def crowdedBody : List Op :=
  [.choice (List.replicate 300 (List.replicate 300 (.many [.consume 0])))]

/-- A grammar with as many repetitions as it takes for numbers to meet. -/
def crowded : Grammar :=
  ⟨#[{ name := "all", body := some crowdedBody }]⟩

theorem constructed_crowded : crowded.Constructed := by
  have added : ({} : Grammar).rule "all" crowdedBody = .ok (0, crowded) := rfl
  exact Constructed.empty.rule added

theorem bodyRepetitions_replicate (count : Nat) (op : Op) :
    bodyRepetitions (List.replicate count op) = count * op.repetitions := by
  induction count with
  | zero => rw [Nat.zero_mul]; rfl
  | succ count ih => rw [List.replicate_succ, bodyRepetitions, ih, Nat.add_comm, Nat.succ_mul]

theorem choiceRepetitions_replicate (count : Nat) (body : List Op) :
    choiceRepetitions (List.replicate count body) = count * bodyRepetitions body := by
  induction count with
  | zero => rw [Nat.zero_mul]; rfl
  | succ count ih => rw [List.replicate_succ, choiceRepetitions, ih, Nat.add_comm, Nat.succ_mul]

theorem repetitionsOf_crowded : crowded.repetitionsOf 0 = 90000 := by
  change bodyRepetitions crowdedBody = 90000
  rw [crowdedBody, bodyRepetitions_singleton, Op.repetitions, choiceRepetitions_replicate,
    bodyRepetitions_replicate]
  rfl

theorem written_crowdedBody {op : Op} (written : Written op crowdedBody) :
    op = .choice (List.replicate 300 (List.replicate 300 (.many [.consume 0]))) ∨
      op = .many [.consume 0] ∨ op = .consume 0 := by
  rcases written.of_singleton with same | ⟨_, encloses, inAlternative⟩
  · exact .inl same
  · cases encloses with
    | choice member =>
        rw [List.eq_of_mem_replicate member] at inAlternative
        have inOne := inAlternative.mono (List.replicate_subset_singleton _ _)
        rcases inOne.of_singleton with same | ⟨_, encloses, inRound⟩
        · exact .inr (.inl same)
        · cases encloses
          rcases inRound.of_singleton with same | ⟨_, encloses, _⟩
          · exact .inr (.inr same)
          · cases encloses

theorem not_cites_crowded {id : RuleId} : ¬ crowded.Cites 0 id := by
  rintro ⟨body, defined, written⟩
  cases defined
  rcases written_crowdedBody written with same | same | same <;> cases same

theorem validate_crowded : (crowded.validate 0).1 = .ok () := by
  rw [validate_ok_iff]
  intro id reached defect shows
  obtain rfl : 0 = id := by
    rcases Relation.ReflTransGen.cases_head reached with same | ⟨_, cites, _⟩
    · exact same
    · exact absurd cites not_cites_crowded
  cases defect with
  | undefined => cases shows
  | emptyChoice =>
      obtain ⟨_, defined, op, written, empty⟩ := shows
      cases defined
      rcases written_crowdedBody written with rfl | rfl | rfl <;>
        rcases empty with same | ⟨_, same⟩ <;> cases same
  | idleRepetition =>
      obtain ⟨_, defined, inner, written, nothing⟩ := shows
      cases defined
      rcases written_crowdedBody written with same | same | same <;> cases same
      cases nothing
  | unitCycle =>
      obtain ⟨_, becomes, _⟩ := Relation.TransGen.head'_iff.mp shows
      exact not_cites_crowded becomes.cites

/-- The numbers of a crowded grammar do not tell its nonterminals apart. -/
theorem not_indices_identify_crowded :
    ∃ flat, (crowded.flatten 0).1 = .ok flat ∧ ¬ (flat.nonterminals.map (·.index)).Nodup ∧
      ¬ ∀ entry ∈ flat.nonterminals, (nonterminalIndex? flat.nonterminals entry.name).bind
        (nonterminalName? flat.nonterminals) = some entry.name := by
  obtain ⟨flat, flattened⟩ := exists_flatten validate_crowded
  have apart := constructed_crowded.namesApart
  obtain ⟨_, rule, expansion, found, rfl, runs⟩ := run_of_flatten flattened
  obtain ⟨start, all, invariant, rootIn, _⟩ := flattened_of_run apart found runs
  obtain ⟨left, sourced⟩ := sourced_of_run apart found runs
  have repeated : 90000 ≤ expansion.repetitions := by
    rw [invariant.counted, ← repetitionsOf_crowded]
    exact List.le_sum_of_mem (List.mem_map_of_mem rootIn)
  have many : ¬ (expansion.entries.map (·.index)).Nodup := by
    rw [nodup_indices_entries_iff, length_entries]
    have named := sourced.repetitions_le
    omega
  refine ⟨expansion.flat, flattened, many, ?_⟩
  rwa [nodup_indices_iff (invariant.tidy.nodup_entries apart)] at many

end Grammar

end CanonicalLR
