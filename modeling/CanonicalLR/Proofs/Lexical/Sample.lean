import CanonicalLR.Proofs.Lexical.Library

/-!
A small library of patterns, which keeps to what is promised of libraries. It reads texts in which
special characters are escaped, by themselves, in a group and in an anchored one, and the choice
between an anchored character and one that is not.
-/

namespace CanonicalLR.Sample

def special (c : Char) : Bool :=
  c ∈ "\\.+*?()|[]\x7b\x7d^$#&-~".toList

def unescape? : List Char → Option (List Char)
  | [] => some []
  | '\\' :: c :: rest => if special c then (unescape? rest).map (c :: ·) else none
  | c :: rest => if special c then none else (unescape? rest).map (c :: ·)

def grouped? : List Char → Option (List Char)
  | '(' :: '?' :: ':' :: rest => if rest.getLast? = some ')' then unescape? rest.dropLast else none
  | _ => none

abbrev Meaning := (input : List Char) → Stretch → Bool

def textAt (text : List Char) : Meaning := fun input stretch =>
  text.isPrefixOf (input.drop stretch.first) && stretch.last == stretch.first + text.length

def choice : List Char :=
  ['^', '(', '?', ':', 'a', ')', '|', '(', '?', ':', 'b', ')']

def meaning? (source : List Char) : Option Meaning :=
  if source = choice then
    some fun input stretch => stretch.first == 0 && textAt ['a'] input stretch || textAt ['b'] input stretch
  else
    match source with
    | '^' :: rest =>
        (grouped? rest).map fun text input stretch => stretch.first == 0 && textAt text input stretch
    | '(' :: _ => (grouped? source).map textAt
    | _ => (unescape? source).map textAt

def stretches (input : List Char) : List Stretch :=
  (List.range (input.length + 1)).flatMap fun first =>
    (List.range (input.length + 1 - first)).map fun count => ⟨first, first + count⟩

abbrev library : PatternLibrary where
  compile? source := (meaning? source).map fun meaning => ⟨fun input =>
    (stretches input).find? (meaning input)⟩
  escape := List.flatMap fun c => if special c then ['\\', c] else [c]

def language : PatternLanguage where
  valid source := (meaning? source).isSome
  spans source input stretch := stretch.first ≤ stretch.last ∧ stretch.last ≤ input.length ∧
    ∃ meaning, meaning? source = some meaning ∧ meaning input stretch
  special := special

variable {source text input : List Char} {stretch : Stretch}

theorem mem_stretches : stretch ∈ stretches input ↔
    stretch.first ≤ stretch.last ∧ stretch.last ≤ input.length := by
  simp only [stretches, List.mem_flatMap, List.mem_range, List.mem_map]
  constructor
  · rintro ⟨first, _, count, _, rfl⟩
    dsimp only
    omega
  · rintro ⟨ordered, within⟩
    exact ⟨stretch.first, by omega, stretch.last - stretch.first, by omega,
      congrArg (Stretch.mk stretch.first) (by omega)⟩

theorem unescape?_letters (text : List Char) : unescape? (language.letters text) = some text := by
  induction text with
  | nil => rfl
  | cons c text ih =>
      rw [PatternLanguage.letters, List.flatMap_cons, ← PatternLanguage.letters,
        PatternLanguage.letter]
      by_cases meant : special c
      · simp [language, unescape?, meant, ← ih]
      · have other : c ≠ '\\' := by
          rintro rfl
          exact meant (by decide)
        simp [language, unescape?, meant, other, ← ih]

theorem meaning?_of_unescape? (read : unescape? source = some text) :
    meaning? source = some (textAt text) := by
  have other : source ≠ choice := by
    rintro rfl
    have refused : unescape? choice = none := by decide
    exact absurd (refused.symm.trans read) nofun
  unfold meaning?
  rw [if_neg other]
  split
  · simp [unescape?, special] at read
  · simp [unescape?, special] at read
  · rw [read]
    rfl

theorem grouped?_group : grouped? (PatternLanguage.group source) = unescape? source := by
  simp [PatternLanguage.group, grouped?]

theorem meaning?_group : meaning? (PatternLanguage.group source) = (unescape? source).map textAt := by
  have other : PatternLanguage.group source ≠ choice := by simp [PatternLanguage.group, choice]
  unfold meaning?
  rw [if_neg other]
  exact congrArg (Option.map textAt) grouped?_group

theorem meaning?_start (other : '^' :: PatternLanguage.group source ≠ choice) :
    meaning? ('^' :: PatternLanguage.group source) =
      (unescape? source).map fun text input stretch =>
        stretch.first == 0 && textAt text input stretch := by
  unfold meaning?
  rw [if_neg other]
  exact congrArg (Option.map _) grouped?_group

theorem spans_of_unescape? (read : unescape? source = some text) :
    language.spans source input stretch ↔ stretch.first ≤ stretch.last ∧
      stretch.last ≤ input.length ∧ textAt text input stretch := by
  simp [language, meaning?_of_unescape? read]

theorem spans_letters {first last : Nat} : language.spans (language.letters text) input ⟨first, last⟩ ↔
    text <+: input.drop first ∧ last = first + text.length ∧ last ≤ input.length := by
  rw [spans_of_unescape? (unescape?_letters text)]
  simp only [textAt, Bool.and_eq_true, List.isPrefixOf_iff_prefix, beq_iff_eq]
  constructor
  · rintro ⟨_, within, begins, rfl⟩
    exact ⟨begins, rfl, within⟩
  · rintro ⟨begins, rfl, within⟩
    exact ⟨Nat.le_add_right .., within, begins, rfl⟩

theorem describes : language.Describes library where
  valid compiled := by
    obtain ⟨_, read, _⟩ := Option.map_eq_some_iff.mp compiled
    exact Option.isSome_iff_exists.mpr ⟨_, read⟩
  found compiled found := by
    obtain ⟨meaning, read, rfl⟩ := Option.map_eq_some_iff.mp compiled
    have bounds := mem_stretches.mp (List.mem_of_find?_eq_some found)
    exact ⟨bounds.1, bounds.2, bounds.1, bounds.2, meaning, read, List.find?_some found⟩
  missed stretch compiled missed := by
    obtain ⟨meaning, read, rfl⟩ := Option.map_eq_some_iff.mp compiled
    rintro ⟨ordered, within, _, read', holds⟩
    obtain rfl := Option.some.inj (read.symm.trans read')
    exact List.find?_eq_none.mp missed stretch (mem_stretches.mpr ⟨ordered, within⟩) holds
  escape _ := rfl
  valid_letters text := by
    change (meaning? (language.letters text)).isSome
    rw [meaning?_of_unescape? (unescape?_letters text)]
    rfl
  spans_nil := by
    intro input stretch
    have read : unescape? [] = some [] := rfl
    rw [spans_of_unescape? read]
    simp only [textAt, List.isPrefixOf, Bool.true_and, List.length_nil, beq_iff_eq]
    omega
  spans_letter := by
    intro c text input first last
    have joined : language.letter c ++ language.letters text = language.letters (c :: text) := rfl
    rw [joined, spans_letters, spans_letters, PatternLanguage.cons_prefix_drop_iff]
    grind
  spans_group := by
    intro source input stretch _ valid
    obtain ⟨text, read⟩ : ∃ text, unescape? source = some text := by
      simpa [language, meaning?_group, Option.isSome_iff_exists] using valid
    simp [language, meaning?_group, meaning?_of_unescape? read, read]
  spans_start := by
    intro source valid anchored
    have other : '^' :: PatternLanguage.group source ≠ choice := by
      intro same
      have shape : source ++ [')'] = ['a', ')', '|', '(', '?', ':', 'b'] ++ [')'] := by
        simpa [PatternLanguage.group, choice] using same
      rw [List.append_cancel_right shape] at valid
      exact absurd valid Bool.false_ne_true
    have meaning := meaning?_start other
    obtain ⟨text, read⟩ : ∃ text, unescape? source = some text := by
      simpa [language, meaning, Option.isSome_iff_exists] using anchored
    refine ⟨by simp [language, meaning?_group, read], fun {input stretch} => ?_⟩
    simp only [language, meaning, meaning?_group, read, Option.map_some, Option.some.injEq,
      exists_eq_left', Bool.and_eq_true, beq_iff_eq]
    tauto

end CanonicalLR.Sample
