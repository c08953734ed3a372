import CanonicalLR.Lexical.Vocabulary

namespace CanonicalLR

namespace Vocabulary

/-- Kinds are created, by any library of patterns, and groups are defined, one after the other. -/
inductive Constructed : Vocabulary → Prop where
  | empty : Constructed {}
  | token [PatternLibrary] {vocabulary next : Vocabulary} {name source : String} {kind : TokenKind}
      (earlier : Constructed vocabulary) (created : vocabulary.token name source = .ok (kind, next)) :
      Constructed next
  | group {vocabulary : Vocabulary} (slot : Nat) (name : String) (members : List TokenKind)
      (earlier : Constructed vocabulary) :
      Constructed (vocabulary.redefineGroup slot name members).2

variable {vocabulary next : Vocabulary} {name source : String} {kind : TokenKind}

section
variable [PatternLibrary]

theorem token_eq_ok_iff :
    vocabulary.token name source = .ok (kind, next) ↔
      vocabulary.kinds.size ≤ Terminal.greatest ∧
      ∃ pattern, PatternLibrary.compile? (TokenKind.anchored source.toList) = some pattern ∧
        kind = ⟨name, source, .ofNat vocabulary.kinds.size, pattern⟩ ∧
        next = { vocabulary with kinds := vocabulary.kinds.push kind } := by
  unfold Vocabulary.token TokenKind.make?
  rw [← Nat.not_lt]
  by_cases full : Terminal.greatest < vocabulary.kinds.size
  · simp [full]
  · cases PatternLibrary.compile? (TokenKind.anchored source.toList) with
    | none => simp [full, Bind.bind, Except.bind]
    | some pattern =>
        rw [if_neg full]
        constructor
        · rintro ⟨⟩
          exact ⟨full, pattern, rfl, rfl, rfl⟩
        · rintro ⟨_, _, ⟨⟩, rfl, rfl⟩
          rfl

theorem token_eq_error_iff {error : TokenError} :
    vocabulary.token name source = .error error ↔
      Terminal.greatest < vocabulary.kinds.size ∧ error = .tooManyTokens ∨
      vocabulary.kinds.size ≤ Terminal.greatest ∧
        PatternLibrary.compile? (TokenKind.anchored source.toList) = none ∧
        error = .invalidPattern name := by
  unfold Vocabulary.token TokenKind.make?
  rw [← Nat.not_lt]
  by_cases full : Terminal.greatest < vocabulary.kinds.size
  · simp [full, eq_comm]
  · cases PatternLibrary.compile? (TokenKind.anchored source.toList) <;>
      simp [full, Bind.bind, Except.bind, pure, Except.pure, eq_comm]

theorem token_eq_ok (created : vocabulary.token name source = .ok (kind, next)) :
    kind.index = .ofNat vocabulary.kinds.size ∧
      next = { vocabulary with kinds := vocabulary.kinds.push kind } := by
  obtain ⟨_, _, _, rfl, added⟩ := token_eq_ok_iff.mp created
  exact ⟨rfl, added⟩

end

theorem Constructed.numbered (constructed : vocabulary.Constructed) {place : Nat}
    (found : vocabulary.kinds[place]? = some kind) : kind.index = .ofNat place := by
  induction constructed with
  | empty => cases found
  | token _ created ih =>
      obtain ⟨index, rfl⟩ := token_eq_ok created
      rw [Array.getElem?_push] at found
      split at found
      · rename_i last
        cases found
        rw [index, last]
      · exact ih found
  | group _ _ _ _ ih => exact ih found

theorem Constructed.index_ne_eof (constructed : vocabulary.Constructed)
    (member : kind ∈ vocabulary.kinds) : kind.index ≠ Terminal.eof := by
  obtain ⟨place, found⟩ := Array.mem_iff_getElem?.mp member
  rw [constructed.numbered found]
  nofun

end Vocabulary

end CanonicalLR
