import CanonicalLR.Pattern.Flags
import CanonicalLR.Pattern.PropertyName

/-!
The smallest parts of a written pattern: blanks, escapes, numbers and bracketed classes. Each
reader takes what is left of the text and returns what is left after it; `none` means that the
text is not a pattern.
-/

namespace CanonicalLR.Pattern

open Unicode

/-- Drops white space and comments, which run from a number sign to the end of the line. -/
def dropBlanks : (inComment : Bool) → List Char → List Char
  | _, [] => []
  | true, c :: rest => dropBlanks (c != '\n') rest
  | false, c :: rest =>
      if Unicode.isWhiteSpace c then dropBlanks false rest
      else if c == '#' then dropBlanks true rest
      else c :: rest

/-- Drops what means nothing between two parts: blanks where the flags say so. -/
def skip (flags : Flags) (text : List Char) : List Char :=
  if flags.verbose then dropBlanks false text else text

/-- Takes characters with a property, at most `most` of them, and the blanks after each. -/
def gather (flags : Flags) (property : Char → Bool) :
    (most : Nat) → List Char → List Char × List Char
  | 0, text => ([], text)
  | _, [] => ([], [])
  | most + 1, c :: rest =>
      if property c then
        let (more, rest) := gather flags property most (skip flags rest)
        (c :: more, rest)
      else ([], c :: rest)

/-! ### Numbers -/

def isHexDigit (c : Char) : Bool :=
  c.isDigit || ('a' ≤ c && c ≤ 'f') || ('A' ≤ c && c ≤ 'F')

def digitValue (c : Char) : Nat :=
  if c.isDigit then c.toNat - '0'.toNat
  else if 'a' ≤ c then c.toNat - 'a'.toNat + 10
  else c.toNat - 'A'.toNat + 10

def valueOf (base : Nat) (digits : List Char) : Nat :=
  digits.foldl (fun value c => value * base + digitValue c) 0

/-- The largest count of a repetition. -/
def countLimit : Nat := 4294967295

/-- Reads a count with the blanks around it. The count is absent if there is no digit or if it is
too large. -/
def readCount (flags : Flags) (text : List Char) : Option Nat × List Char :=
  let text := text.dropWhile Unicode.isWhiteSpace
  let (digits, rest) := gather flags Char.isDigit text.length text
  let count := valueOf 10 digits
  (if digits.isEmpty || count > countLimit then none else some count,
    rest.dropWhile Unicode.isWhiteSpace)

/-- Reads a character given by its code point: a fixed number of digits, or any in braces. -/
def readCode? (flags : Flags) (width : Nat) (text : List Char) : Option (Char × List Char) :=
  let char? (digits rest : List Char) : Option (Char × List Char) :=
    let code := valueOf 16 digits
    if code.isValidChar then some (Char.ofNat code, rest) else none
  match skip flags text with
  | '\x7b' :: rest =>
      let rest := skip flags rest
      match gather flags isHexDigit rest.length rest with
      | ([], _) => none
      | (digits, '\x7d' :: rest) => char? digits (skip flags rest)
      | _ => none
  | rest =>
      let (digits, rest) := gather flags isHexDigit width rest
      if digits.length == width then char? digits rest else none

/-! ### Escapes -/

/-- Characters with a meaning of their own in patterns, which a backslash takes away. -/
def isMeta (c : Char) : Bool :=
  c ∈ ['\\', '.', '+', '*', '?', '(', ')', '|', '[', ']', '\x7b', '\x7d', '^', '$', '#', '&', '-',
    '~']

/-- What an escape or a plain character stands for. -/
inductive Atom where
  /-- A character; `byte` marks one written as a two-digit code. -/
  | char (c : Char) (byte : Bool)
  | chars (chars : CharSet)
  | look (assertion : Assertion)
deriving DecidableEq, Repr

/-- Reads the name of a word boundary in braces. Where the brace begins no name, it belongs to a
repetition and is left alone. -/
def readBoundary? (flags : Flags) (text : List Char) : Option (Assertion × List Char) :=
  let ascii := !flags.unicode
  match text with
  | '\x7b' :: inner =>
      let inner := skip flags inner
      match gather flags (fun c => c.isAlpha || c == '-') inner.length inner with
      | ([], []) => none
      | ([], _) => some (.boundary ascii, text)
      | (name, '\x7d' :: rest) =>
          match String.ofList name with
          | "start" => some (.wordStart ascii, rest)
          | "end" => some (.wordEnd ascii, rest)
          | "start-half" => some (.wordStartHalf ascii, rest)
          | "end-half" => some (.wordEndHalf ascii, rest)
          | _ => none
      | _ => none
  | _ => some (.boundary ascii, text)

/-- Reads what follows a backslash and the letter of a property: one letter, or a text in braces. -/
def readProperty? (flags : Flags) (negated : Bool) (text : List Char) :
    Option (CharSet × List Char) :=
  if !flags.unicode then none
  else
    match skip flags text with
    | '\x7b' :: rest =>
        let (inner, rest) := gather flags (· != '\x7d') rest.length (skip flags rest)
        match rest, classInBraces? inner with
        | _ :: rest, some (others, chars) => do
            return (← flags.finish? (negated != others) chars, rest)
        | _, _ => none
    | c :: rest => do return (← flags.finish? negated (← classNamed? [c]), rest)
    | [] => none

/-- Reads what follows a backslash. Digits, which elsewhere refer back to groups, and letters
without a meaning are refused. -/
def readEscape? (flags : Flags) : List Char → Option (Atom × List Char)
  | [] => none
  | c :: rest =>
      let ascii := !flags.unicode
      let char (c : Char) : Option (Atom × List Char) := some (.char c false, rest)
      let look (assertion : Assertion) : Option (Atom × List Char) := some (.look assertion, rest)
      match c with
      | 'x' => do
          let (code, after) ← readCode? flags 2 rest
          return (.char code ((skip flags rest).head? != some '\x7b'), after)
      | 'u' => do let (code, after) ← readCode? flags 4 rest; return (.char code false, after)
      | 'U' => do let (code, after) ← readCode? flags 8 rest; return (.char code false, after)
      | 'a' => char '\x07'
      | 'f' => char '\x0c'
      | 't' => char '\t'
      | 'n' => char '\n'
      | 'r' => char '\r'
      | 'v' => char '\x0b'
      | 'p' => do let (chars, after) ← readProperty? flags false rest; return (.chars chars, after)
      | 'P' => do let (chars, after) ← readProperty? flags true rest; return (.chars chars, after)
      | 'A' => look .textStart
      | 'z' => look .textEnd
      | 'b' => do let (assertion, after) ← readBoundary? flags rest; return (.look assertion, after)
      | 'B' => look (.noBoundary ascii)
      | '<' => look (.wordStart ascii)
      | '>' => look (.wordEnd ascii)
      | _ =>
          if c.isAlpha then do return (.chars (← flags.named? c), rest)
          else if c.toNat < 128 && !c.isDigit then char c
          else none

/-! ### Bracketed classes -/

inductive SetOp where
  | inter
  | diff
  | symmDiff
deriving DecidableEq, Repr

def SetOp.apply (a b : CharSet) : SetOp → CharSet
  | .inter => a.inter b
  | .diff => a.diff b
  | .symmDiff => a.symmDiff b

/-- A class with the depth to which its parts are nested. -/
structure Nested where
  chars : CharSet
  depth : Nat
deriving DecidableEq, Repr

/-- The members of a class that have been read, latest first: their ranges, their number and the
greatest of their depths. -/
structure Members where
  ranges : List (Nat × Nat) := []
  count : Nat := 0
  depth : Nat := 0
deriving DecidableEq, Repr

namespace Members

def add (members : Members) (member : Nested) : Members where
  ranges := member.chars.ranges.toList ++ members.ranges
  count := members.count + 1
  depth := max members.depth member.depth

def addChars (members : Members) (chars : CharSet) : Members :=
  members.add ⟨chars, 0⟩

/-- The union of the members, which is one level deeper than they are if there are several. -/
def union (members : Members) : Nested :=
  ⟨.ofRanges members.ranges, if members.count < 2 then members.depth else members.depth + 1⟩

end Members

/-- Reads what follows the opening bracket up to the first member that is written like any other:
whether the class is negated, and the members that count as such only in front. -/
def openBracket? (flags : Flags) (text : List Char) : Option (Bool × Members × List Char) :=
  let (negated, text) :=
    match skip flags text with
    | '^' :: rest => (true, skip flags rest)
    | text => (false, text)
  match gather flags (· == '-') text.length text with
  | (_, []) => none
  | ([], ']' :: rest) =>
      match skip flags rest with
      | [] => none
      | rest => some (negated, ({} : Members).addChars (.single ']'), rest)
  | (hyphens, rest) =>
      some (negated, hyphens.foldl (fun members c => members.addChars (.single c)) {}, rest)

/-- Reads a class such as `[:alpha:]`, whose opening bracket is behind. -/
def readPosix? (flags : Flags) : List Char → Option (Option CharSet × List Char)
  | ':' :: text =>
      let (negated, text) :=
        match text with
        | '^' :: rest => (true, rest)
        | text => (false, text)
      let (name, rest) := text.span (· != ':')
      match rest, posixClass? (String.ofList name) with
      | ':' :: ']' :: rest, some chars => some (flags.finish? negated chars, rest)
      | _, _ => none
  | _ => none

/-- The next character that is not blank, used to look behind a hyphen. -/
def peek (flags : Flags) (text : List Char) : Option Char :=
  if !flags.verbose then text.head?
  else
    match text.dropWhile Unicode.isWhiteSpace with
    | '#' :: rest => (rest.dropWhile Unicode.isWhiteSpace).head?
    | rest => rest.head?

/-- Reads a member of a class: a character or an escape. -/
def readMember? (flags : Flags) : List Char → Option (Atom × List Char)
  | [] => none
  | '\\' :: rest => readEscape? flags rest
  | c :: rest => some (.char c false, rest)

/-- A member as a class of its own. -/
def Atom.members? (flags : Flags) : Atom → Option CharSet
  | .char c _ => if flags.unicode || c.toNat < 128 then some (.single c) else none
  | .chars members => some members
  | .look _ => none

/-- Reads a member or a range of them. A hyphen before the closing bracket or before another hyphen
makes no range. -/
def readRange? (flags : Flags) (text : List Char) : Option (CharSet × List Char) := do
  let (first, rest) ← readMember? flags text
  match skip flags rest with
  | [] => none
  | '-' :: rest =>
      if peek flags rest == some ']' || peek flags rest == some '-' then
        return (← first.members? flags, '-' :: rest)
      else
        let (last, rest) ← readMember? flags (skip flags rest)
        match first, last with
        | .char lo _, .char hi _ =>
            let _ ← first.members? flags
            let _ ← last.members? flags
            if lo ≤ hi then some (.span lo hi, rest) else none
        | _, _ => none
  | rest => return (← first.members? flags, rest)

/-- Applies the set operation that is waiting for its second operand. -/
def combine (flags : Flags) (waiting : Option (SetOp × Nested)) (second : Nested) : Nested :=
  match waiting with
  | some (op, first) =>
      ⟨op.apply (flags.fold first.chars) (flags.fold second.chars),
        max first.depth second.depth + 1⟩
  | none => second

/-- Reads the members of a class up to its closing bracket. Set operations bind from left to right;
`waiting` is the one read last with all before it, `members` what has been read since then. -/
def readBracket? (flags : Flags) : (steps : Nat) → (waiting : Option (SetOp × Nested)) →
    (members : Members) → List Char → Option (Nested × List Char)
  | 0, _, _, _ => none
  | steps + 1, waiting, members, text =>
      let operate (op : SetOp) (rest : List Char) :=
        readBracket? flags steps (some (op, combine flags waiting members.union)) {} rest
      match skip flags text with
      | [] => none
      | ']' :: rest => some (combine flags waiting members.union, rest)
      | '&' :: '&' :: rest => operate .inter rest
      | '-' :: '-' :: rest => operate .diff rest
      | '~' :: '~' :: rest => operate .symmDiff rest
      | '[' :: rest =>
          match readPosix? flags rest with
          | some (posix, rest) => do
              readBracket? flags steps waiting (members.addChars (← posix)) rest
          | none => do
              let (negated, first, rest) ← openBracket? flags rest
              let (inner, rest) ← readBracket? flags steps none first rest
              let chars ← flags.finish? negated inner.chars
              readBracket? flags steps waiting (members.add ⟨chars, inner.depth + 1⟩) rest
      | text => do
          let (chars, rest) ← readRange? flags text
          readBracket? flags steps waiting (members.addChars chars) rest

/-- Reads a bracketed class whose opening bracket is behind. -/
def readClass? (flags : Flags) (text : List Char) : Option (Nested × List Char) := do
  let (negated, first, rest) ← openBracket? flags text
  let (inner, rest) ← readBracket? flags (text.length + 1) none first rest
  return (⟨← flags.finish? negated inner.chars, inner.depth + 1⟩, rest)

end CanonicalLR.Pattern
