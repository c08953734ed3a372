import Mathlib.Data.String.Basic
import CanonicalLR.Proofs.Lexical.Partition
import CanonicalLR.Proofs.Lexical.Sample

namespace CanonicalLR

theorem byteLength_toList (text : String) : byteLength text.toList = text.utf8ByteSize := by
  conv_rhs => rw [← String.ofList_toList (s := text), String.utf8ByteSize_ofList]
  induction text.toList with
  | nil => rfl
  | cons c rest ih => rw [byteLength, ih, String.utf8Len, Nat.add_comm]

namespace PatternLanguage

variable {language : PatternLanguage} {library : PatternLibrary} {text : List Char} {kind : TokenKind}

theorem Describes.spans_literal (described : language.Describes library) {input : List Char}
    {first last : Nat} (compiled : language.valid (TokenKind.anchored (library.escape text))) :
    language.spans (TokenKind.anchored (library.escape text)) input ⟨first, last⟩ ↔
      first = 0 ∧ last = text.length ∧ text <+: input := by
  rw [described.escape] at compiled ⊢
  rw [described.spans_anchored (described.valid_letters text) compiled]
  constructor
  · rintro ⟨start, spans⟩
    obtain rfl : first = 0 := start
    obtain ⟨begins, end_, _⟩ := described.spans_letters.mp spans
    exact ⟨rfl, by omega, begins⟩
  · rintro ⟨rfl, rfl, begins⟩
    exact ⟨rfl, described.spans_letters.mpr ⟨begins, by omega, begins.length_le⟩⟩

theorem Describes.matchLength?_literal (described : language.Describes library)
    (compiled : library.compile? (TokenKind.anchored (library.escape text)) = some kind.pattern)
    (input : List Char) : kind.matchLength? input =
      if text ≠ [] ∧ text <+: input then some text.length else none := by
  have spans {first last : Nat} : language.spans (TokenKind.anchored (library.escape text)) input
      ⟨first, last⟩ ↔ first = 0 ∧ last = text.length ∧ text <+: input :=
    described.spans_literal (described.valid compiled)
  unfold TokenKind.matchLength?
  cases found : kind.pattern.find? input with
  | none =>
      have missed := described.missed ⟨0, text.length⟩ compiled found
      have other : ¬ (text ≠ [] ∧ text <+: input) := fun ⟨_, begins⟩ =>
        missed (spans.mpr ⟨rfl, rfl, begins⟩)
      rw [if_neg other]
      rfl
  | some stretch =>
      obtain ⟨first, last⟩ := stretch
      obtain ⟨rfl, rfl, begins⟩ := spans.mp (described.found compiled found).2.2
      cases text <;> simp [begins, Option.filter]

end PatternLanguage

namespace Vocabulary

/-- The tokens of a kind with a fixed text are the text itself, wherever the input begins with it and
it is not empty. -/
theorem literal_exact [library : PatternLibrary] {language : PatternLanguage}
    (described : language.Describes library) {vocabulary next : Vocabulary} {name text : String}
    {kind : TokenKind} (created : vocabulary.literal name text = .ok (kind, next))
    (input : List Char) :
    (kind.matchLength? input).map (fun count => byteLength (input.take count)) =
      if text ≠ "" ∧ text.toList <+: input then some text.utf8ByteSize else none := by
  obtain ⟨_, pattern, compiled, rfl, _⟩ := token_eq_ok_iff.mp created
  rw [String.toList_ofList] at compiled
  have empty_iff : text.toList ≠ [] ↔ text ≠ "" := String.toList_eq_nil_iff.not
  rw [described.matchLength?_literal compiled input]
  simp only [empty_iff]
  split
  · rename_i begins
    rw [Option.map_some, ← List.prefix_iff_eq_take.mp begins.2, byteLength_toList]
  · rfl

theorem literal_exact_plus : ∃ kind next,
    @Vocabulary.literal Sample.library {} "Plus" "+=" = .ok (kind, next) ∧
      (kind.matchLength? "+=1".toList).map (fun count => byteLength ("+=1".toList.take count)) = some 2 ∧
      (kind.matchLength? "1+=".toList).map (fun count => byteLength ("1+=".toList.take count)) = none := by
  let _ := Sample.library
  obtain ⟨pattern, compiled⟩ : ∃ pattern, PatternLibrary.compile?
      (TokenKind.anchored (String.ofList (PatternLibrary.escape "+=".toList)).toList) =
        some pattern := by
    rw [String.toList_ofList]
    exact ⟨_, rfl⟩
  obtain ⟨kind, next, created⟩ : ∃ kind next, literal {} "Plus" "+=" = .ok (kind, next) :=
    ⟨_, _, token_eq_ok_iff.mpr ⟨Nat.zero_le _, pattern, compiled, rfl, rfl⟩⟩
  have tokens := literal_exact Sample.describes created
  exact ⟨kind, next, created, (tokens _).trans (by decide), (tokens _).trans (by decide)⟩

end Vocabulary

end CanonicalLR
