import Mathlib.Data.List.Forall2
import CanonicalLR.Lexical.Lexer
import CanonicalLR.Proofs.Lexical.Vocabulary
import CanonicalLR.Proofs.Text.Position

namespace CanonicalLR

namespace TokenKind

/-- Matches of the kind end within the text in which they are found. -/
def Bounded (kind : TokenKind) : Prop :=
  ∀ text stretch, kind.pattern.find? text = some stretch → stretch.last ≤ text.length

variable {kind : TokenKind} {text : List Char} {length : Nat}

theorem matchLength?_eq_some_iff : kind.matchLength? text = some length ↔
    0 < length ∧ ∃ stretch, kind.pattern.find? text = some stretch ∧ stretch.last = length := by
  simp [matchLength?, Option.filter_eq_some_iff, and_comm]

theorem matchLength?_pos (matched : kind.matchLength? text = some length) : 0 < length :=
  (matchLength?_eq_some_iff.mp matched).1

theorem Bounded.matchLength?_le (bounded : kind.Bounded)
    (matched : kind.matchLength? text = some length) : length ≤ text.length := by
  obtain ⟨_, stretch, found, rfl⟩ := matchLength?_eq_some_iff.mp matched
  exact bounded text stretch found

end TokenKind

namespace Lexer

variable {kinds : List TokenKind} {start : Nat} {text rest : List Char} {pieces : List Piece}

def Picks (kinds : List TokenKind) (text : List Char) (kind : TokenKind) (length : Nat) : Prop :=
  ∃ earlier later, kinds = earlier ++ kind :: later ∧
    (∀ other ∈ earlier, other.matchLength? text = none) ∧ kind.matchLength? text = some length

/-- Pieces are cut from a text that begins at the offset `start` until no kind matches. -/
inductive Cuts (kinds : List TokenKind) : (start : Nat) → (text : List Char) → List Piece →
    (rest : List Char) → Prop where
  | stop {start : Nat} {text : List Char} (stuck : ∀ kind ∈ kinds, kind.matchLength? text = none) :
      Cuts kinds start text [] text
  | piece {start : Nat} {text chars behind rest : List Char} {kind : TokenKind} {pieces : List Piece}
      (parts : text = chars ++ behind) (picked : Picks kinds text kind chars.length)
      (later : Cuts kinds (start + byteLength chars) behind pieces rest) :
      Cuts kinds start text (⟨kind, start, chars⟩ :: pieces) rest

theorem firstMatch?_eq_some_iff {kind : TokenKind} {length : Nat} :
    firstMatch? kinds text = some (kind, length) ↔ Picks kinds text kind length := by
  unfold firstMatch? Picks
  rw [List.findSome?_eq_some_iff]
  constructor
  · rintro ⟨earlier, found, later, parts, matched, others⟩
    obtain ⟨_, matched, same⟩ := Option.map_eq_some_iff.mp matched
    cases same
    exact ⟨earlier, later, parts, fun other member => by simpa using others other member, matched⟩
  · rintro ⟨earlier, later, parts, others, matched⟩
    exact ⟨earlier, kind, later, parts, by simp [matched], fun other member => by
      simp [others other member]⟩

theorem firstMatch?_eq_none_iff :
    firstMatch? kinds text = none ↔ ∀ kind ∈ kinds, kind.matchLength? text = none := by
  simp [firstMatch?]

theorem Picks.pos {kind : TokenKind} {length : Nat} (picked : Picks kinds text kind length) :
    0 < length := by
  obtain ⟨_, _, _, _, matched⟩ := picked
  exact TokenKind.matchLength?_pos matched

theorem Picks.le {kind : TokenKind} {length : Nat} (picked : Picks kinds text kind length)
    (bounded : ∀ kind ∈ kinds, kind.Bounded) : length ≤ text.length := by
  obtain ⟨_, _, rfl, _, matched⟩ := picked
  exact (bounded kind (by simp)).matchLength?_le matched

theorem Picks.unique {kind kind' : TokenKind} {length length' : Nat}
    (picked : Picks kinds text kind length) (picked' : Picks kinds text kind' length') :
    kind = kind' ∧ length = length' := by
  have same := firstMatch?_eq_some_iff.mpr picked'
  rw [firstMatch?_eq_some_iff.mpr picked] at same
  simpa using same

theorem cuts_nil (bounded : ∀ kind ∈ kinds, kind.Bounded) : Cuts kinds start [] [] [] := by
  refine .stop fun kind member => ?_
  cases matched : kind.matchLength? [] with
  | none => rfl
  | some length =>
      have positive := TokenKind.matchLength?_pos matched
      exact absurd ((bounded kind member).matchLength?_le matched) (Nat.not_le.mpr positive)

theorem cuts_cut (bounded : ∀ kind ∈ kinds, kind.Bounded) (start : Nat) {steps : Nat}
    (enough : text.length ≤ steps) :
    Cuts kinds start text (cut kinds steps start text).1 (cut kinds steps start text).2 := by
  induction steps generalizing start text with
  | zero =>
      obtain rfl := List.length_eq_zero_iff.mp (Nat.le_zero.mp enough)
      exact cuts_nil bounded
  | succ steps ih =>
      cases text with
      | nil => exact cuts_nil bounded
      | cons c later =>
          unfold cut
          split
          · rename_i stuck
            exact .stop (firstMatch?_eq_none_iff.mp stuck)
          · rename_i kind length found
            have picked := firstMatch?_eq_some_iff.mp found
            have positive := picked.pos
            refine .piece (List.take_append_drop length (c :: later)).symm ?_ (ih _ ?_)
            · rwa [List.length_take_of_le (picked.le bounded)]
            · rw [List.length_drop]
              omega

theorem Cuts.unique {pieces' : List Piece} {rest' : List Char} (cuts : Cuts kinds start text pieces rest)
    (cuts' : Cuts kinds start text pieces' rest') : pieces' = pieces ∧ rest' = rest := by
  induction cuts generalizing pieces' rest' with
  | stop stuck =>
      cases cuts' with
      | stop => exact ⟨rfl, rfl⟩
      | piece _ picked =>
          obtain ⟨_, _, rfl, _, matched⟩ := picked
          simp [stuck] at matched
  | piece parts picked _ ih =>
      cases cuts' with
      | stop stuck =>
          obtain ⟨_, _, rfl, _, matched⟩ := picked
          simp [stuck] at matched
      | piece parts' picked' later' =>
          obtain ⟨rfl, same⟩ := picked.unique picked'
          obtain ⟨rfl, rfl⟩ := List.append_inj (parts.symm.trans parts') same
          obtain ⟨rfl, rfl⟩ := ih later'
          exact ⟨rfl, rfl⟩

theorem Cuts.parts (cuts : Cuts kinds start text pieces rest) :
    text = pieces.flatMap Piece.chars ++ rest := by
  induction cuts with
  | stop => rfl
  | piece parts _ _ ih => simp [parts, ← ih]

theorem Cuts.stuck (cuts : Cuts kinds start text pieces rest) :
    ∀ kind ∈ kinds, kind.matchLength? rest = none := by
  induction cuts with
  | stop stuck => exact stuck
  | piece _ _ _ ih => exact ih

theorem Cuts.stretch (cuts : Cuts kinds start text pieces rest) {piece : Piece}
    (member : piece ∈ pieces) : piece.kind ∈ kinds ∧ piece.chars ≠ [] ∧
      ∃ front back, text = front ++ piece.chars ++ back ∧ piece.start = start + byteLength front := by
  induction cuts with
  | stop => cases member
  | @piece _ _ chars _ _ _ _ parts picked _ ih =>
      obtain _ | ⟨_, later⟩ := member
      · obtain ⟨_, _, rfl, _⟩ := id picked
        exact ⟨by simp, List.length_pos_iff.mp picked.pos, [], _, parts, rfl⟩
      · obtain ⟨known, nonempty, front, back, shape, place⟩ := ih later
        refine ⟨known, nonempty, chars ++ front, back, by simp [parts, shape], ?_⟩
        rw [place, byteLength_append]
        omega

structure Marks (text : List Char) (piece : Piece) (token : Token) : Prop where
  kind : token.kind = piece.kind.index
  name : token.name = piece.kind.name
  image : token.image.toList = piece.chars
  slice : ∃ front back, text = front ++ token.image.toList ++ back ∧ byteLength front = token.startOffset
  startOffset : token.startOffset = piece.start
  endOffset : token.endOffset + 1 = piece.stop
  first : ⟨token.line, token.startColumn⟩ = countedPosition (encoding text) token.startOffset
  last : token.endColumn = (countedPosition (encoding text) token.endOffset).column

structure MarksEnd (text : List Char) (token : Token) : Prop where
  kind : token.isEof
  image : token.image = ""
  startOffset : token.startOffset = byteLength text
  endOffset : token.endOffset = byteLength text
  first : ⟨token.line, token.startColumn⟩ = countedPosition (encoding text) token.startOffset
  last : token.endColumn = token.startColumn

theorem marks_tokenOf {piece : Piece} {front back : List Char} (nonempty : piece.chars ≠ [])
    (shape : text = front ++ piece.chars ++ back) (place : piece.start = byteLength front) :
    Marks text piece (tokenOf (lineBreaks 0 text).toArray piece) := by
  have positive := (List.length_pos_iff.mpr nonempty).trans_le (length_le_byteLength piece.chars)
  have within : piece.stop ≤ byteLength text := by
    simp [shape, byteLength_append, Piece.stop, place]
  have stop : piece.stop = piece.start + byteLength piece.chars := rfl
  have inside : piece.start ≤ byteLength text := by omega
  have inside' : piece.stop - 1 ≤ byteLength text := by omega
  have first := positionOf_lineBreaks inside
  have last := positionOf_lineBreaks inside'
  exact {
    kind := rfl
    name := rfl
    image := String.toList_ofList
    slice := ⟨front, back, by simpa [tokenOf] using shape, place.symm⟩
    startOffset := rfl
    endOffset := by simp only [tokenOf]; omega
    first := first
    last := congrArg Position.column last }

theorem marksEnd_eofToken :
    MarksEnd text (eofToken (lineBreaks 0 text).toArray (byteLength text)) where
  kind := rfl
  image := rfl
  startOffset := rfl
  endOffset := rfl
  first := positionOf_lineBreaks le_rfl
  last := rfl

def emitted (lexer : Lexer) (pieces : List Piece) : List Piece :=
  pieces.filter fun piece => piece.kind.index ∉ lexer.skipped

/-- What tokenizing a text comes to. The text is parted in exactly one way into pieces and a rest
where no kind matches. The tokens are those of the pieces that are not skipped; the mark of the end
follows if there is no rest, and otherwise there is an error. -/
structure Partition (lexer : Lexer) (text : String) (pieces : List Piece) (rest : List Char)
    (tokens : List Token) : Prop where
  cuts : Cuts lexer.kinds 0 text.toList pieces rest
  unique : ∀ pieces' rest', Cuts lexer.kinds 0 text.toList pieces' rest' →
    pieces' = pieces ∧ rest' = rest
  parts : text.toList = pieces.flatMap Piece.chars ++ rest
  nonempty : ∀ piece ∈ pieces, piece.chars ≠ []
  marks : List.Forall₂ (Marks text.toList) (lexer.emitted pieces) tokens
  proper : ∀ token ∈ tokens, ¬ token.isEof
  finished : rest = [] → (lexer.tokenize text).errors = [] ∧
    ∃ last, (lexer.tokenize text).tokens = tokens ++ [last] ∧ MarksEnd text.toList last
  stuck : ∀ c behind, rest = c :: behind → (∀ kind ∈ lexer.kinds, kind.matchLength? rest = none) ∧
    (lexer.tokenize text).tokens = tokens ∧
    ∃ error, (lexer.tokenize text).errors = [error] ∧ error.character = c ∧
      error.offset = byteLength (pieces.flatMap Piece.chars) ∧
      error.position = countedPosition (encoding text.toList) error.offset

theorem tokenize_partition (lexer : Lexer) (text : String)
    (bounded : ∀ kind ∈ lexer.kinds, kind.Bounded)
    (made : ∀ kind ∈ lexer.kinds, ∃ vocabulary : Vocabulary,
      vocabulary.Constructed ∧ kind ∈ vocabulary.kinds) :
    ∃ pieces rest tokens, Partition lexer text pieces rest tokens := by
  have cuts := cuts_cut bounded 0 (le_refl text.toList.length)
  generalize cutting : cut lexer.kinds text.toList.length 0 text.toList = result at cuts
  obtain ⟨pieces, rest⟩ := result
  replace cuts : Cuts lexer.kinds 0 text.toList pieces rest := cuts
  have marks : List.Forall₂ (Marks text.toList) (lexer.emitted pieces)
      ((lexer.emitted pieces).map (tokenOf (lineBreaks 0 text.toList).toArray)) := by
    rw [List.forall₂_map_right_iff, List.forall₂_same]
    intro piece member
    obtain ⟨_, nonempty, front, back, shape, place⟩ := cuts.stretch (List.mem_filter.mp member).1
    exact marks_tokenOf nonempty shape (by omega)
  have proper : ∀ token ∈ (lexer.emitted pieces).map (tokenOf (lineBreaks 0 text.toList).toArray),
      ¬ token.isEof := by
    intro token member
    obtain ⟨piece, emitted, rfl⟩ := List.mem_map.mp member
    obtain ⟨vocabulary, constructed, known⟩ :=
      made piece.kind (cuts.stretch (List.mem_filter.mp emitted).1).1
    simpa [Token.isEof, tokenOf] using constructed.index_ne_eof known
  have total : byteLength text.toList =
      byteLength (pieces.flatMap Piece.chars) + byteLength rest := by
    rw [cuts.parts, byteLength_append]
  refine ⟨pieces, rest, _, cuts, fun _ _ => cuts.unique, cuts.parts,
    fun piece member => (cuts.stretch member).2.1, marks, proper, ?_, ?_⟩
  · rintro rfl
    simp only [tokenize, cutting]
    exact ⟨trivial, _, rfl, marksEnd_eofToken⟩
  · rintro c behind rfl
    have offset : byteLength text.toList - byteLength (c :: behind) =
        byteLength (pieces.flatMap Piece.chars) := by omega
    simp only [tokenize, cutting, offset]
    exact ⟨cuts.stuck, rfl, _, rfl, rfl, rfl, positionOf_lineBreaks (by omega)⟩

def word : TokenKind where
  name := "word"
  source := "né"
  index := 0
  pattern := .fixed ['n', 'é']

def feed : TokenKind where
  name := "feed"
  source := "\\n"
  index := 1
  pattern := .fixed ['\n']

def words : Vocabulary where
  kinds := #[word, feed]

abbrev wordLibrary : PatternLibrary where
  compile? source :=
    if source = "^(?:né)".toList then some (.fixed ['n', 'é'])
    else if source = "^(?:\\n)".toList then some (.fixed ['\n'])
    else none
  escape := id

theorem constructed_words : words.Constructed :=
  let _ := wordLibrary
  .token (.token .empty (rfl : Vocabulary.token {} "word" "né" = .ok (word, ⟨#[word], {}⟩)))
    (rfl : Vocabulary.token ⟨#[word], {}⟩ "feed" "\\n" = .ok (feed, words))

theorem bounded_of_fixed {kind : TokenKind} {chars : List Char} (pattern : kind.pattern = .fixed chars) :
    kind.Bounded := by
  intro text stretch found
  rw [pattern] at found
  simp only [Matcher.fixed, List.isPrefixOf_iff_prefix, Option.ite_none_right_eq_some,
    Option.some.injEq] at found
  obtain ⟨begins, rfl⟩ := found
  exact begins.length_le

theorem bounded_words : ∀ kind ∈ [word, feed], kind.Bounded := by
  intro kind member
  simp only [List.mem_cons, List.not_mem_nil, or_false] at member
  rcases member with rfl | rfl
  · exact bounded_of_fixed rfl
  · exact bounded_of_fixed rfl

theorem tokenize_partition_words : ∃ pieces tokens,
    Partition (({ kinds := [word, feed] } : Lexer).skip feed) "né\nné!" pieces ['!'] tokens := by
  obtain ⟨pieces, rest, tokens, partition⟩ :=
    tokenize_partition (({ kinds := [word, feed] } : Lexer).skip feed) "né\nné!" bounded_words
      fun kind member => ⟨words, constructed_words, by simpa [words, skip] using member⟩
  have stop : (cut [word, feed] 6 0 "né\nné!".toList).2 = ['!'] := by decide
  obtain rfl := stop.symm.trans (partition.unique _ _ (cuts_cut bounded_words _ (by decide))).2
  exact ⟨pieces, tokens, partition⟩

end Lexer

end CanonicalLR
