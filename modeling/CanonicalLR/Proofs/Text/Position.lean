import Mathlib.Data.List.Basic
import CanonicalLR.Proofs.Ordered.Bisection
import CanonicalLR.Text.Position

namespace CanonicalLR

/-- The bytes of a text. -/
def encoding (chars : List Char) : List UInt8 :=
  chars.flatMap String.utf8EncodeChar

def countedPosition (bytes : List UInt8) (offset : Nat) : Position :=
  let before := bytes.take offset
  ⟨before.count 10 + 1, (before.reverse.takeWhile (· != 10)).length + 1⟩

variable {chars : List Char}

theorem length_encoding : (encoding chars).length = byteLength chars := by
  induction chars with
  | nil => rfl
  | cons c rest ih => simp_all [encoding, byteLength]

theorem encoding_append (front back : List Char) :
    encoding (front ++ back) = encoding front ++ encoding back := by
  simp [encoding]

theorem byteLength_append (front back : List Char) :
    byteLength (front ++ back) = byteLength front + byteLength back := by
  simp [← length_encoding, encoding_append]

theorem length_le_byteLength (chars : List Char) : chars.length ≤ byteLength chars := by
  induction chars with
  | nil => rfl
  | cons c rest ih =>
      have := c.utf8Size_pos
      simp [byteLength]
      omega

theorem ten_mem_utf8EncodeChar {c : Char} (member : 10 ∈ String.utf8EncodeChar c) : c = '\n' := by
  have number {n : Nat} (same : 10 = UInt8.ofNat n) (byte : n < 256) : n = 10 := by
    have := congrArg UInt8.toNat same
    rw [UInt8.toNat_ofNat_of_lt' byte] at this
    exact this.symm
  unfold String.utf8EncodeChar at member
  by_cases ascii : c.val.toNat ≤ 127
  · simp only [ascii, if_true, List.mem_singleton] at member
    exact Char.ext (UInt32.toNat_inj.mp (number member (by omega)))
  · -- The bytes of all other characters are large.
    simp only [ascii, if_false] at member
    split at member
    · simp only [List.mem_cons, List.not_mem_nil, or_false] at member
      obtain same | same := member
      all_goals exact absurd (number same (by omega)) (by omega)
    · split at member
      · simp only [List.mem_cons, List.not_mem_nil, or_false] at member
        obtain same | same | same := member
        all_goals exact absurd (number same (by omega)) (by omega)
      · simp only [List.mem_cons, List.not_mem_nil, or_false] at member
        obtain same | same | same | same := member
        all_goals exact absurd (number same (by omega)) (by omega)

theorem lineBreaks_eq (start : Nat) :
    lineBreaks start chars = (encoding chars).findIdxs (· == 10) start := by
  induction chars generalizing start with
  | nil => rfl
  | cons c rest ih =>
      have parts : encoding (c :: rest) = String.utf8EncodeChar c ++ encoding rest := rfl
      rw [parts, List.findIdxs_append, String.length_utf8EncodeChar, ← ih]
      by_cases feed : c = '\n'
      · subst feed
        rfl
      · have none : (String.utf8EncodeChar c).findIdxs (· == 10) start = [] := by
          rw [List.findIdxs_eq_nil_iff]
          intro byte member
          rw [beq_eq_false_iff_ne]
          rintro rfl
          exact feed (ten_mem_utf8EncodeChar member)
        simp [lineBreaks, feed, none]

theorem positionOf_lineBreaks {offset : Nat} (within : offset ≤ byteLength chars) :
    positionOf (lineBreaks 0 chars).toArray offset = countedPosition (encoding chars) offset := by
  rw [← length_encoding] at within
  rw [lineBreaks_eq]
  generalize encoding chars = bytes at within ⊢
  have size : (bytes.take offset).length = offset := List.length_take_of_le within
  have parts : bytes.findIdxs (· == 10) =
      (bytes.take offset).findIdxs (· == 10) ++ (bytes.drop offset).findIdxs (· == 10) offset := by
    conv_lhs => rw [← List.take_append_drop offset bytes, List.findIdxs_append, size, Nat.zero_add]
  have before : countFirst (fun lineBreak => decide (lineBreak < offset))
      (bytes.findIdxs (· == 10)).toArray = (bytes.take offset).count 10 := by
    rw [parts, countFirst_append, List.length_findIdxs]
    · rfl
    · intro place member
      have := List.lt_add_of_mem_findIdxs place member
      simp at this ⊢
      omega
    · intro place member
      have := List.ge_of_mem_findIdxs place member
      simpa using this
  simp only [positionOf, countedPosition, before, Position.mk.injEq, true_and]
  by_cases feed : 10 ∈ bytes.take offset
  · -- The last line feed parts the bytes before the offset.
    obtain ⟨line, earlier, shape, last⟩ := List.eq_append_cons_of_mem (List.mem_reverse.mpr feed)
    have taken : bytes.take offset = earlier.reverse ++ 10 :: line.reverse := by
      simpa using congrArg List.reverse shape
    have column : (bytes.take offset).reverse.takeWhile (· != 10) = line := by
      rw [shape, List.takeWhile_append_of_pos]
      · simp
      · intro byte member
        simpa using ne_of_mem_of_not_mem member last
    have count : (bytes.take offset).count 10 = earlier.count 10 + 1 := by
      simp [taken, List.count_eq_zero.mpr last]
    have found : (bytes.findIdxs (· == 10))[earlier.count 10]? = some earlier.length := by
      have place : (earlier.reverse.findIdxs (· == 10)).length = earlier.count 10 := by
        rw [List.length_findIdxs, List.countP_reverse]
        rfl
      simp [parts, taken, List.findIdxs_append, ← place, -List.length_findIdxs]
    rw [column, count]
    simp [found]
    simp [taken] at size
    omega
  · have whole : (bytes.take offset).reverse.takeWhile (· != 10) = (bytes.take offset).reverse := by
      rw [← List.append_nil (bytes.take offset).reverse, List.takeWhile_append_of_pos]
      · simp
      · intro byte member
        simpa using ne_of_mem_of_not_mem (List.mem_reverse.mp member) feed
    simp [List.count_eq_zero.mpr feed, whole, within]

end CanonicalLR
