import CanonicalLR.Lexical.Kind
import Mathlib.Data.List.Basic

namespace CanonicalLR

/-- What texts mean as patterns: which of them are patterns, the stretches of an input that they
match, and the characters that do not stand for themselves. -/
structure PatternLanguage where
  valid : (source : List Char) → Prop
  spans : (source input : List Char) → Stretch → Prop
  special : Char → Bool

namespace PatternLanguage

def letter (language : PatternLanguage) (c : Char) : List Char :=
  if language.special c then ['\\', c] else [c]

def letters (language : PatternLanguage) (text : List Char) : List Char :=
  text.flatMap language.letter

def group (source : List Char) : List Char :=
  '(' :: '?' :: ':' :: (source ++ [')'])

/-- What a library of patterns promises. Texts may be refused for their size, so not every pattern
has a matcher. -/
structure Describes (language : PatternLanguage) (library : PatternLibrary) : Prop where
  valid {source : List Char} {matcher : Matcher} :
    library.compile? source = some matcher → language.valid source
  found {source input : List Char} {matcher : Matcher} {stretch : Stretch} :
    library.compile? source = some matcher → matcher.find? input = some stretch →
      stretch.first ≤ stretch.last ∧ stretch.last ≤ input.length ∧
        language.spans source input stretch
  missed {source input : List Char} {matcher : Matcher} (stretch : Stretch) :
    library.compile? source = some matcher → matcher.find? input = none →
      ¬ language.spans source input stretch
  /-- Escaping puts a backslash before the special characters. -/
  escape (text : List Char) : library.escape text = language.letters text
  valid_letters (text : List Char) : language.valid (language.letters text)
  spans_nil {input : List Char} {stretch : Stretch} :
    language.spans [] input stretch ↔
      stretch.first = stretch.last ∧ stretch.last ≤ input.length
  /-- A character matches itself, and what stands behind it goes on from there. -/
  spans_letter {c : Char} {text input : List Char} {first last : Nat} :
    language.spans (language.letter c ++ language.letters text) input ⟨first, last⟩ ↔
      input[first]? = some c ∧ language.spans (language.letters text) input ⟨first + 1, last⟩
  /-- A group matches what the pattern in it matches. -/
  spans_group {source input : List Char} {stretch : Stretch} :
    language.valid source → language.valid (group source) →
      (language.spans (group source) input stretch ↔ language.spans source input stretch)
  /-- The anchor holds at the start, and the group behind it is a pattern as well. -/
  spans_start {source : List Char} :
    language.valid source → language.valid ('^' :: group source) → language.valid (group source) ∧
      ∀ {input : List Char} {stretch : Stretch}, language.spans ('^' :: group source) input stretch ↔
        stretch.first = 0 ∧ language.spans (group source) input stretch

variable {language : PatternLanguage} {library : PatternLibrary} {source input : List Char}
  {stretch : Stretch}

theorem cons_prefix_drop_iff {c : Char} {text : List Char} {first : Nat} :
    c :: text <+: input.drop first ↔ input[first]? = some c ∧ text <+: input.drop (first + 1) := by
  rw [← List.drop_drop, ← List.head?_drop]
  cases input.drop first <;> simp [List.cons_prefix_cons, eq_comm]

theorem Describes.spans_letters (described : language.Describes library) {text : List Char}
    {first last : Nat} : language.spans (language.letters text) input ⟨first, last⟩ ↔
      text <+: input.drop first ∧ last = first + text.length ∧ last ≤ input.length := by
  induction text generalizing first with
  | nil =>
      rw [letters, List.flatMap_nil, described.spans_nil]
      simp [eq_comm]
  | cons c text ih =>
      rw [letters, List.flatMap_cons, ← letters, described.spans_letter, ih, cons_prefix_drop_iff]
      grind

theorem Describes.spans_anchored (described : language.Describes library)
    (valid : language.valid source) (anchored : language.valid (TokenKind.anchored source)) :
    language.spans (TokenKind.anchored source) input stretch ↔
      stretch.first = 0 ∧ language.spans source input stretch := by
  have start := described.spans_start valid anchored
  exact start.2.trans (and_congr_right fun _ => described.spans_group valid start.1)

end PatternLanguage

end CanonicalLR
