import CanonicalLR.Json.Reader
import Mathlib.Data.List.Basic

namespace CanonicalLR.JsonValue

/-! ### Strings -/

theorem escaped_cases (c : Char) :
    (∃ short, escaped c = ['\\', short] ∧ short ≠ 'u' ∧ shortEscape? short = some c) ∨
    (c.toNat < 128 ∧
      escaped c = ['\\', 'u', '0', '0', hexDigit (c.toNat / 16), hexDigit (c.toNat % 16)]) ∨
    (escaped c = [c] ∧ c ≠ '"' ∧ c ≠ '\\' ∧ 32 ≤ c.toNat) := by
  unfold escaped
  split
  case h_8 quote backslash _ _ _ _ _ =>
    split
    · rename_i control
      refine .inr (.inl ⟨?_, rfl⟩)
      simp only [Bool.or_eq_true, decide_eq_true_eq, beq_iff_eq] at control
      omega
    · rename_i plain
      simp only [Bool.or_eq_true, decide_eq_true_eq, not_or, Nat.not_lt] at plain
      exact .inr (.inr ⟨rfl, quote, backslash, plain.1⟩)
  all_goals exact .inl ⟨_, rfl, by decide, rfl⟩

theorem hexCode?_hexDigit : ∀ number < 128,
    hexCode? '0' '0' (hexDigit (number / 16)) (hexDigit (number % 16)) = some number := by
  decide +kernel

theorem charOf?_toNat (c : Char) : charOf? c.toNat = some c := by
  rw [charOf?, if_pos (show c.toNat.isValidChar from c.valid), Char.ofNat_toNat]

theorem exists_piece (c : Char) : ∃ piece,
    (∀ text, readPieces? (escaped c ++ text) =
      (readPieces? text).map fun (pieces, rest) => (piece :: pieces, rest)) ∧
    ∀ pieces, joinPieces? (piece :: pieces) = (joinPieces? pieces).map (c :: ·) := by
  rcases escaped_cases c with
    ⟨short, same, notCode, means⟩ | ⟨less, same⟩ | ⟨same, quote, backslash, atLeast⟩
  · refine ⟨.char c, fun text => ?_, fun pieces => ?_⟩
    · rw [same, List.cons_append, List.singleton_append, readPieces?, means]
      · cases readPieces? text <;> rfl
      · exact fun _ _ _ _ _ code _ => notCode code
    · rw [joinPieces?]
      cases joinPieces? pieces <;> rfl
  · refine ⟨.code c.toNat, fun text => ?_, fun pieces => ?_⟩
    · rw [same]
      simp only [List.cons_append, List.nil_append, readPieces?, hexCode?_hexDigit _ less]
      cases readPieces? text <;> rfl
    · have plain : isHighHalf c.toNat = false := by
        rw [isHighHalf, Bool.and_eq_false_iff, decide_eq_false_iff_not]
        omega
      rw [joinPieces?.eq_def]
      simp only [plain, charOf?_toNat]
      cases joinPieces? pieces <;> rfl
  · refine ⟨.char c, fun text => ?_, fun pieces => ?_⟩
    · have read : (c == '\\' || decide (c.toNat < 32)) = false := by
        rw [Bool.or_eq_false_iff, beq_eq_false_iff_ne, decide_eq_false_iff_not]
        exact ⟨backslash, by omega⟩
      rw [same, List.singleton_append, readPieces?, if_neg (by rw [read]; exact Bool.false_ne_true)]
      · cases readPieces? text <;> rfl
      · exact fun is => quote is
      · exact fun _ _ _ _ _ is _ => backslash is
      · exact fun _ _ is _ => backslash is
    · rw [joinPieces?]
      cases joinPieces? pieces <;> rfl

theorem exists_pieces (text : List Char) : ∃ pieces,
    (∀ rest, readPieces? (text.flatMap escaped ++ '"' :: rest) = some (pieces, rest)) ∧
    joinPieces? pieces = some text := by
  induction text with
  | nil => exact ⟨[], fun rest => by rw [List.flatMap_nil, List.nil_append, readPieces?], rfl⟩
  | cons c text ih =>
      obtain ⟨pieces, reads, joins⟩ := ih
      obtain ⟨piece, readsHere, joinsHere⟩ := exists_piece c
      refine ⟨piece :: pieces, fun rest => ?_, ?_⟩
      · rw [List.flatMap_cons, List.append_assoc, readsHere, reads]
        rfl
      · rw [joinsHere, joins]
        rfl

theorem readString?_escaped (value : String) (rest : List Char) :
    readString? (value.toList.flatMap escaped ++ '"' :: rest) = some (value, rest) := by
  obtain ⟨pieces, reads, joins⟩ := exists_pieces value.toList
  rw [readString?, reads]
  simp [joins]

/-! ### Integers -/

def Follows (rest : List Char) : Prop :=
  ∀ c, rest.head? = some c → c = ',' ∨ c = ']' ∨ c = '\x7d'

def InRange (value : Int) : Prop :=
  -170141183460469231731687303715884105728 ≤ value ∧
    value ≤ 340282366920938463463374607431768211455

variable {rest : List Char}

theorem follows_nil : Follows [] := nofun

theorem follows_cons {c : Char} (ends : c = ',' ∨ c = ']' ∨ c = '\x7d') : Follows (c :: rest) := by
  rintro _ ⟨⟩
  exact ends

theorem digitsOf_append {digits : List Char} (all : ∀ c ∈ digits, c.isDigit = true)
    (follows : Follows rest) : digitsOf (digits ++ rest) = digits := by
  rw [digitsOf, List.takeWhile_append_of_pos all]
  cases rest with
  | nil => simp
  | cons c rest =>
      have none : c.isDigit = false := by
        rcases follows c rfl with rfl | rfl | rfl <;> decide
      simp [none]

theorem readFraction_of_follows (follows : Follows rest) : readFraction rest = (none, rest) := by
  cases rest with
  | nil => rfl
  | cons c rest => rcases follows c rfl with rfl | rfl | rfl <;> rfl

theorem readExponent?_of_follows (follows : Follows rest) :
    readExponent? rest = some (none, rest) := by
  cases rest with
  | nil => rfl
  | cons c rest => rcases follows c rfl with rfl | rfl | rfl <;> rfl

theorem natOf_toDigits (number : Nat) : natOf (Nat.toDigits 10 number) = number :=
  Nat.ofDigitChars_ten_toDigits

theorem isDigit_toDigits (number : Nat) : ∀ c ∈ Nat.toDigits 10 number, c.isDigit = true :=
  fun _ => Nat.isDigit_of_mem_toDigits (by decide) (by decide)

theorem isEmpty_toDigits (number : Nat) : (Nat.toDigits 10 number).isEmpty = false :=
  List.isEmpty_eq_false_iff.mpr Nat.toDigits_ne_nil

theorem head?_toDigits (number : Nat) (rest : List Char) :
    ((Nat.toDigits 10 number ++ rest).head? == some '-') = false := by
  have digits := isDigit_toDigits number
  cases shape : Nat.toDigits 10 number with
  | nil => exact absurd shape Nat.toDigits_ne_nil
  | cons c more =>
      rw [shape] at digits
      have digit := digits c List.mem_cons_self
      rw [List.cons_append, List.head?_cons, beq_eq_false_iff_ne]
      rintro ⟨⟩
      cases digit

theorem readNumber?_digits (negative : Bool) (number : Nat) (follows : Follows rest) :
    readNumber? ((if negative then ['-'] else []) ++ (Nat.toDigits 10 number ++ rest)) =
      (integer? negative (Nat.toDigits 10 number)).map fun value => (value, rest) := by
  have sign : (((if negative then ['-'] else []) ++ (Nat.toDigits 10 number ++ rest)).head? ==
      some '-') = negative := by
    cases negative with
    | false => exact head?_toDigits number rest
    | true => rfl
  have unsigned : (if negative then ((if negative then ['-'] else []) ++
      (Nat.toDigits 10 number ++ rest)).drop 1 else (if negative then ['-'] else []) ++
      (Nat.toDigits 10 number ++ rest)) = Nat.toDigits 10 number ++ rest := by
    cases negative <;> rfl
  simp only [readNumber?, sign, unsigned, digitsOf_append (isDigit_toDigits number) follows,
    isEmpty_toDigits, Bool.false_and, Bool.false_eq_true, if_false, List.drop_left,
    readFraction_of_follows follows, readExponent?_of_follows follows, numberOf?,
    Option.isNone_none]
  cases integer? negative (Nat.toDigits 10 number) <;> rfl

theorem toList_toString_ofNat (number : Nat) :
    (toString (Int.ofNat number)).toList = Nat.toDigits 10 number :=
  Nat.toList_repr

theorem toList_toString_negSucc (number : Nat) :
    (toString (Int.negSucc number)).toList = '-' :: Nat.toDigits 10 (number + 1) := by
  change ("-" ++ Nat.repr (number + 1)).toList = _
  rw [String.toList_append, Nat.toList_repr]
  rfl

theorem readNumber?_render {value : Int} (inRange : InRange value) (follows : Follows rest) :
    readNumber? ((toString value).toList ++ rest) = some (.int value, rest) := by
  obtain ⟨atLeast, atMost⟩ := inRange
  cases value with
  | ofNat number =>
      have within : ¬ 340282366920938463463374607431768211455 < number := by
        rw [Int.ofNat_eq_natCast] at atMost
        omega
      have read := readNumber?_digits false number follows
      simp only [integer?, natOf_toDigits, isEmpty_toDigits, within, Bool.false_or, decide_false,
        Bool.false_eq_true, if_false] at read
      rw [toList_toString_ofNat]
      exact read
  | negSucc number =>
      have within : ¬ 170141183460469231731687303715884105728 < number + 1 := by
        rw [Int.negSucc_eq] at atLeast
        omega
      have read := readNumber?_digits true (number + 1) follows
      simp only [integer?, natOf_toDigits, isEmpty_toDigits, within, Bool.false_or, decide_false,
        Bool.false_eq_true, if_false, if_true] at read
      rw [toList_toString_negSucc]
      exact read

theorem exists_toString_eq_cons (value : Int) :
    ∃ c more, (toString value).toList = c :: more ∧ (c = '-' ∨ c.isDigit = true) := by
  cases value with
  | ofNat number =>
      have digits := isDigit_toDigits number
      cases shape : Nat.toDigits 10 number with
      | nil => exact absurd shape Nat.toDigits_ne_nil
      | cons c more =>
          rw [shape] at digits
          exact ⟨c, more, (toList_toString_ofNat number).trans shape,
            .inr (digits c List.mem_cons_self)⟩
  | negSucc number => exact ⟨'-', _, toList_toString_negSucc number, .inl rfl⟩

/-! ### Values -/

theorem dropSpace_cons {c : Char} (plain : isSpace c = false) (rest : List Char) :
    dropSpace (c :: rest) = c :: rest := by
  rw [dropSpace, List.dropWhile_cons, plain]
  rfl

theorem isSpace_of_begins {c : Char} (begins : c = '-' ∨ c.isDigit = true) : isSpace c = false := by
  have differs {other : Char} (unlike : other ≠ '-' ∧ other.isDigit = false) : c ≠ other := by
    rintro rfl
    rcases begins with same | digit
    · exact unlike.1 same
    · rw [unlike.2] at digit
      cases digit
  rw [isSpace, beq_false_of_ne (differs (by decide)), beq_false_of_ne (differs (by decide)),
    beq_false_of_ne (differs (by decide)), beq_false_of_ne (differs (by decide))]
  rfl

theorem readValue?_of_begins {c : Char} (begins : c = '-' ∨ c.isDigit = true) (steps : Nat)
    (text : List Char) : readValue? (steps + 1) (c :: text) = readNumber? (c :: text) := by
  rw [readValue?, dropSpace_cons (isSpace_of_begins begins)]
  split
  -- The last case is that of numbers; no other value begins as they do.
  case h_7 => rfl
  all_goals
    rename_i same
    cases same
    rcases begins with same | digit
    · cases same
    · cases digit

inductive Plain : JsonValue → Prop where
  | null : Plain .null
  | bool (value : Bool) : Plain (.bool value)
  | int {value : Int} (inRange : InRange value) : Plain (.int value)
  | str (value : String) : Plain (.str value)
  | arr {members : List JsonValue} (each : ∀ member ∈ members, Plain member) :
      Plain (.arr members)
  | obj {fields : List (String × JsonValue)} (each : ∀ field ∈ fields, Plain field.2) :
      Plain (.obj fields)

theorem exists_render_eq_cons {value : JsonValue} (plain : Plain value) :
    ∃ c more, value.render = c :: more ∧ isSpace c = false ∧ c ≠ ']' := by
  cases plain with
  | null => exact ⟨_, _, rfl, by decide⟩
  | bool value => cases value <;> exact ⟨_, _, rfl, by decide⟩
  | @int value inRange =>
      obtain ⟨c, more, same, begins⟩ := exists_toString_eq_cons value
      refine ⟨c, more, same, isSpace_of_begins begins, ?_⟩
      rintro rfl
      rcases begins with same | digit
      · cases same
      · cases digit
  | str value => exact ⟨_, _, rfl, by decide⟩
  | @arr members _ => cases members <;> exact ⟨_, _, rfl, by decide⟩
  | @obj fields _ => cases fields <;> exact ⟨_, _, rfl, by decide⟩

def IsReadBack (value : JsonValue) : Prop :=
  ∀ steps rest, Follows rest → value.render.length < steps →
    readValue? steps (value.render ++ rest) = some (value, rest)

theorem readMembers?_last {first : JsonValue} (reads : IsReadBack first) {steps : Nat}
    (less : first.render.length < steps) (rest : List Char) :
    readMembers? (steps + 1) (first.render ++ ']' :: rest) = some ([first], rest) := by
  rw [readMembers?, reads _ _ (follows_cons (.inr (.inl rfl))) less]
  rfl

theorem readMembers?_more {first : JsonValue} (reads : IsReadBack first) {steps : Nat}
    (less : first.render.length < steps) (rest : List Char) :
    readMembers? (steps + 1) (first.render ++ ',' :: rest) =
      (readMembers? steps rest).map fun (members, rest) => (first :: members, rest) := by
  rw [readMembers?, reads _ _ (follows_cons (.inl rfl)) less]
  change (readMembers? steps rest >>= _) = _
  cases readMembers? steps rest <;> rfl

theorem readMembers?_render {first : JsonValue} {others : List JsonValue}
    (each : ∀ member ∈ first :: others, IsReadBack member) {steps : Nat}
    (enough : first.render.length + (renderMembers others).length < steps) (rest : List Char) :
    readMembers? steps (first.render ++ (renderMembers others ++ rest)) =
      some (first :: others, rest) := by
  obtain ⟨readsFirst, eachOther⟩ := List.forall_mem_cons.mp each
  induction others generalizing first steps with
  | nil =>
      simp only [renderMembers, List.length_singleton] at enough
      obtain ⟨steps, rfl⟩ := Nat.exists_eq_add_of_le' (show 1 ≤ steps by omega)
      exact readMembers?_last readsFirst (by omega) rest
  | cons second others ih =>
      simp only [renderMembers, List.cons_append, List.length_cons, List.length_append] at enough
      obtain ⟨steps, rfl⟩ := Nat.exists_eq_add_of_le' (show 1 ≤ steps by omega)
      rw [renderMembers, List.cons_append, List.cons_append, List.append_assoc,
        readMembers?_more readsFirst (by omega), ih eachOther (by omega)
          (List.forall_mem_cons.mp eachOther).1 (List.forall_mem_cons.mp eachOther).2]
      rfl

theorem quoted_append (name : String) (rest : List Char) :
    quoted name ++ rest = '"' :: (name.toList.flatMap escaped ++ '"' :: rest) := by
  simp [quoted]

theorem readFields?_last {first : JsonValue} (reads : IsReadBack first) (name : String)
    {steps : Nat} (less : first.render.length < steps) (rest : List Char) :
    readFields? (steps + 1) (quoted name ++ ':' :: (first.render ++ '\x7d' :: rest)) =
      some ([(name, first)], rest) := by
  rw [quoted_append, readFields?, dropSpace_cons (show isSpace '"' = false from rfl)]
  simp only [readString?_escaped, Option.bind_eq_bind, Option.bind_some,
    dropSpace_cons (show isSpace ':' = false from rfl),
    reads _ _ (follows_cons (.inr (.inr rfl))) less]
  rfl

theorem readFields?_more {first : JsonValue} (reads : IsReadBack first) (name : String)
    {steps : Nat} (less : first.render.length < steps) (rest : List Char) :
    readFields? (steps + 1) (quoted name ++ ':' :: (first.render ++ ',' :: rest)) =
      (readFields? steps rest).map fun (fields, rest) => ((name, first) :: fields, rest) := by
  rw [quoted_append, readFields?, dropSpace_cons (show isSpace '"' = false from rfl)]
  simp only [readString?_escaped, Option.bind_eq_bind, Option.bind_some,
    dropSpace_cons (show isSpace ':' = false from rfl), reads _ _ (follows_cons (.inl rfl)) less]
  change (readFields? steps rest >>= _) = _
  cases readFields? steps rest <;> rfl

theorem readFields?_render {name : String} {first : JsonValue}
    {others : List (String × JsonValue)}
    (each : ∀ field ∈ (name, first) :: others, IsReadBack field.2) {steps : Nat}
    (enough : (quoted name).length + first.render.length + (renderFields others).length < steps)
    (rest : List Char) :
    readFields? steps (quoted name ++ ':' :: (first.render ++ (renderFields others ++ rest))) =
      some ((name, first) :: others, rest) := by
  obtain ⟨readsFirst : IsReadBack first, eachOther⟩ := List.forall_mem_cons.mp each
  induction others generalizing name first steps with
  | nil =>
      simp only [renderFields, List.length_singleton] at enough
      obtain ⟨steps, rfl⟩ := Nat.exists_eq_add_of_le' (show 1 ≤ steps by omega)
      exact readFields?_last readsFirst name (by omega) rest
  | cons second others ih =>
      obtain ⟨nameSecond, second⟩ := second
      simp only [renderFields, List.cons_append, List.length_cons, List.length_append] at enough
      obtain ⟨steps, rfl⟩ := Nat.exists_eq_add_of_le' (show 1 ≤ steps by omega)
      simp only [renderFields, List.cons_append, List.append_assoc]
      rw [readFields?_more readsFirst name (by omega), ih eachOther (by omega)
        (List.forall_mem_cons.mp eachOther).1 (List.forall_mem_cons.mp eachOther).2]
      rfl

theorem readValue?_array {c : Char} (notSpace : isSpace c = false) (notClosing : c ≠ ']')
    (steps : Nat) (text : List Char) : readValue? (steps + 1) ('[' :: c :: text) =
      (readMembers? steps (c :: text)).map fun (members, rest) => (.arr members, rest) := by
  rw [readValue?, dropSpace_cons (show isSpace '[' = false from rfl)]
  simp only [dropSpace_cons notSpace]
  split
  · rename_i same
    cases same
    exact absurd rfl notClosing
  · cases readMembers? steps (c :: text) <;> rfl

theorem readValue?_object (steps : Nat) (text : List Char) :
    readValue? (steps + 1) ('\x7b' :: '"' :: text) =
      (readFields? steps ('"' :: text)).map fun (fields, rest) => (.obj fields, rest) := by
  rw [readValue?, dropSpace_cons (show isSpace '\x7b' = false from rfl)]
  simp only [dropSpace_cons (show isSpace '"' = false from rfl)]
  change (readFields? steps ('"' :: text) >>= _) = _
  cases readFields? steps ('"' :: text) <;> rfl

theorem isReadBack_int {value : Int} (inRange : InRange value) : IsReadBack (.int value) := by
  rintro (_ | steps) rest follows enough
  · cases enough
  · obtain ⟨c, more, same, begins⟩ := exists_toString_eq_cons value
    have reads := readNumber?_render inRange follows
    rw [render]
    rw [same, List.cons_append] at reads ⊢
    rw [readValue?_of_begins begins, reads]

theorem isReadBack_str (value : String) : IsReadBack (.str value) := by
  rintro (_ | steps) rest _ enough
  · cases enough
  · rw [render, quoted_append, readValue?, dropSpace_cons (show isSpace '"' = false from rfl)]
    simp only [readString?_escaped]
    rfl

theorem isReadBack_arr {members : List JsonValue} (plain : ∀ member ∈ members, Plain member)
    (each : ∀ member ∈ members, IsReadBack member) : IsReadBack (.arr members) := by
  rintro (_ | steps) rest _ enough
  · cases enough
  · cases members with
    | nil => rfl
    | cons first others =>
        obtain ⟨c, more, shape, notSpace, notClosing⟩ :=
          exists_render_eq_cons (plain first List.mem_cons_self)
        simp only [render, List.cons_append, List.length_cons, List.length_append] at enough
        have reads := readMembers?_render each (Nat.lt_of_succ_lt_succ enough) rest
        rw [shape, List.cons_append] at reads
        rw [render, List.cons_append, List.cons_append, List.append_assoc, shape,
          List.cons_append, readValue?_array notSpace notClosing, reads]
        rfl

theorem isReadBack_obj {fields : List (String × JsonValue)}
    (each : ∀ field ∈ fields, IsReadBack field.2) : IsReadBack (.obj fields) := by
  rintro (_ | steps) rest _ enough
  · cases enough
  · cases fields with
    | nil => rfl
    | cons field others =>
        obtain ⟨name, first⟩ := field
        simp only [render, List.cons_append, List.length_cons, List.length_append] at enough
        have less : (quoted name).length + first.render.length + (renderFields others).length <
          steps := by omega
        have reads := readFields?_render each less rest
        rw [quoted_append] at reads
        simp only [render, List.cons_append, List.append_assoc, quoted_append]
        rw [readValue?_object, reads]
        rfl

theorem Plain.isReadBack {value : JsonValue} (plain : Plain value) : IsReadBack value := by
  induction plain with
  | null =>
      rintro (_ | steps) rest _ enough
      · cases enough
      · rfl
  | bool value =>
      rintro (_ | steps) rest _ enough
      · cases value <;> cases enough
      · cases value <;> rfl
  | int inRange => exact isReadBack_int inRange
  | str value => exact isReadBack_str value
  | arr plain each => exact isReadBack_arr plain each
  | obj _ each => exact isReadBack_obj each

theorem read?_render {value : JsonValue} (plain : Plain value) :
    read? (String.ofList value.render) = some value := by
  have reads := plain.isReadBack (value.render.length + 1) [] follows_nil (Nat.lt_succ_self _)
  rw [List.append_nil] at reads
  rw [read?, String.toList_ofList, reads]
  rfl

end CanonicalLR.JsonValue
