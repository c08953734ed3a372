import CanonicalLR.Proofs.Lexical.Partition
import CanonicalLR.Proofs.Lexical.Sample

namespace CanonicalLR.Vocabulary

open PatternLanguage

/-- The text of a pattern is anchored as text, and what is asked for is that the result is a pattern.
Matches of a text that is one by itself are its own and begin where the input does. Of others it is
known only that some match of the anchored text ends there. -/
theorem token_anchored [library : PatternLibrary] {language : PatternLanguage}
    (described : language.Describes library) (vocabulary : Vocabulary) (name source : String) :
    ((∃ kind next, vocabulary.token name source = .ok (kind, next)) ↔
      vocabulary.kinds.size ≤ Terminal.greatest ∧
        (library.compile? (TokenKind.anchored source.toList)).isSome) ∧
    (∀ error, vocabulary.token name source = .error error ↔
      Terminal.greatest < vocabulary.kinds.size ∧ error = .tooManyTokens ∨
      vocabulary.kinds.size ≤ Terminal.greatest ∧
        library.compile? (TokenKind.anchored source.toList) = none ∧ error = .invalidPattern name) ∧
    ∀ kind next input count, vocabulary.token name source = .ok (kind, next) →
      kind.matchLength? input = some count → 0 < count ∧ count ≤ input.length ∧
        (∃ first ≤ count, language.spans (TokenKind.anchored source.toList) input ⟨first, count⟩) ∧
        (language.valid source.toList → language.spans source.toList input ⟨0, count⟩) := by
  refine ⟨?_, fun error => token_eq_error_iff, ?_⟩
  · simp only [token_eq_ok_iff, Option.isSome_iff_exists]
    constructor
    · rintro ⟨_, _, room, pattern, compiled, _⟩
      exact ⟨room, pattern, compiled⟩
    · rintro ⟨room, pattern, compiled⟩
      exact ⟨_, _, room, pattern, compiled, rfl, rfl⟩
  · intro kind next input count created matched
    obtain ⟨_, pattern, compiled, rfl, _⟩ := token_eq_ok_iff.mp created
    obtain ⟨positive, ⟨first, last⟩, found, rfl⟩ := TokenKind.matchLength?_eq_some_iff.mp matched
    obtain ⟨ordered, within, spans⟩ := described.found compiled found
    refine ⟨positive, within, ⟨first, ordered, spans⟩, fun valid => ?_⟩
    obtain ⟨start, spans⟩ :=
      (described.spans_anchored valid (described.valid compiled)).mp spans
    obtain rfl : first = 0 := start
    exact spans

theorem token_anchored_sum :
    Sample.language.valid "a\\+".toList ∧
    ∃ kind next, @token Sample.library {} "Sum" "a\\+" = .ok (kind, next) ∧
      kind.matchLength? "a+b".toList = some 2 ∧
      Sample.language.spans "a\\+".toList "a+b".toList ⟨0, 2⟩ := by
  let _ := Sample.library
  obtain ⟨created, _, anchored⟩ := token_anchored Sample.describes {} "Sum" "a\\+"
  obtain ⟨kind, next, created⟩ := created.mpr ⟨by decide, rfl⟩
  have valid : Sample.language.valid "a\\+".toList := rfl
  have matched : kind.matchLength? "a+b".toList = some 2 := by
    obtain ⟨_, _, ⟨⟩, rfl, _⟩ := token_eq_ok_iff.mp created
    decide
  exact ⟨valid, kind, next, created, matched, (anchored kind next _ 2 created matched).2.2.2 valid⟩

/-- A parenthesis of the text may close the group that was opened around it, so that what comes behind
stands outside and matches anywhere. The text here is no pattern, and the match begins behind the
start. -/
theorem not_token_anchored : ∃ (library : PatternLibrary) (language : PatternLanguage),
    language.Describes library ∧ ¬ language.valid "a)|(?:b".toList ∧
      library.compile? "a)|(?:b".toList = none ∧
      ∃ kind next, @token library {} "T" "a)|(?:b" = .ok (kind, next) ∧
        kind.pattern.find? "xb".toList = some ⟨1, 2⟩ ∧ kind.matchLength? "xb".toList = some 2 ∧
        ¬ language.spans "a)|(?:b".toList "xb".toList ⟨0, 2⟩ := by
  let _ := Sample.library
  have refused : Sample.meaning? "a)|(?:b".toList = none := rfl
  refine ⟨Sample.library, Sample.language, Sample.describes, ?_, ?_, _, _,
    token_eq_ok_iff.mpr ⟨by decide, _, rfl, rfl, rfl⟩, ?_, ?_, ?_⟩
  · exact Bool.false_ne_true
  · rfl
  · decide
  · decide
  · rintro ⟨_, _, _, read, _⟩
    exact absurd (refused.symm.trans read) nofun

end CanonicalLR.Vocabulary
