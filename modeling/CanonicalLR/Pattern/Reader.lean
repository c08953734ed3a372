import CanonicalLR.Unicode.Name
import CanonicalLR.Pattern.Element

/-!
Reading a written pattern. The reader keeps the groups that are still open, outermost last, and
looks at nothing but the innermost one: so the pattern inside a group is read as it would be read
alone, up to what the flags of the group change.
-/

namespace CanonicalLR.Pattern

/-- A part of a pattern, and how deep the parts inside it are nested. The expression is absent where
a directive stood, which cannot be repeated. -/
structure Part where
  expr : Option Expr
  depth : Nat
deriving DecidableEq, Repr

/-- How deep parts are nested that stand side by side: where there are several of them, they are one
level deeper than alone. -/
def depthOf (depths : List Nat) : Nat :=
  let deepest := depths.foldl max 0
  if depths.length < 2 then deepest else deepest + 1

/-- What has been read of a group: finished alternatives, and the parts of the current one, both
latest first. -/
structure Level where
  alternatives : List (Expr × Nat) := []
  parts : List Part := []
deriving DecidableEq, Repr

namespace Level

/-- The current alternative with its depth. -/
def current (level : Level) : Expr × Nat :=
  (.sequence (level.parts.reverse.filterMap Part.expr), depthOf (level.parts.map Part.depth))

/-- The choice between all alternatives with its depth. -/
def close (level : Level) : Expr × Nat :=
  let alternatives := level.current :: level.alternatives
  (.choice (alternatives.reverse.map Prod.fst), depthOf (alternatives.map Prod.snd))

def push (level : Level) (part : Part) : Level :=
  { level with parts := part :: level.parts }

def split (level : Level) : Level :=
  ⟨level.current :: level.alternatives, []⟩

end Level

/-- A group that is still open with what was read before it, the flags in force there, and its own
number if it has one. -/
structure Open where
  level : Level
  flags : Flags
  index : Option Nat
deriving DecidableEq, Repr

structure Reading where
  level : Level := {}
  outer : List Open := []
  flags : Flags := {}
  /-- The number of groups with a number so far. -/
  groups : Nat := 0
  /-- Names of groups so far; none may be used twice. -/
  names : List (List Char) := []
deriving DecidableEq, Repr

namespace Reading

def push (reading : Reading) (expr : Expr) (depth : Nat) : Reading :=
  { reading with level := reading.level.push ⟨some expr, depth⟩ }

def openGroup (reading : Reading) (flags : Flags) (index : Option Nat) : Reading :=
  { reading with
    level := {}
    outer := ⟨reading.level, reading.flags, index⟩ :: reading.outer
    flags }

/-- Opens a group that takes the next number. -/
def openNumbered (reading : Reading) : Reading :=
  let index := reading.groups + 1
  { reading with groups := index }.openGroup reading.flags (some index)

def closeGroup? (reading : Reading) : Option Reading :=
  match reading.outer with
  | [] => none
  | enclosing :: outer =>
      let (expr, depth) := reading.level.close
      let expr :=
        match enclosing.index with
        | some index => .capture index expr
        | none => expr
      some { reading with
        level := enclosing.level.push ⟨some expr, depth + 1⟩
        outer
        flags := enclosing.flags }

/-- The expression for a single character. -/
def charExpr? (flags : Flags) (c : Char) (byte : Bool) : Option Expr :=
  if flags.unicode then
    some (if flags.ignoreCase then .ofClass (.variants c) else .ofChar c)
  else if c.toNat < 128 then
    some (if flags.ignoreCase then .ofClass (Unicode.CharSet.single c).anyAsciiCase else .ofChar c)
  else if byte then none
  else some (.ofChar c)

def atomExpr? (flags : Flags) : Atom → Option Expr
  | .char c byte => charExpr? flags c byte
  | .chars chars => some (.ofClass chars)
  | .look assertion => some (.look assertion)

/-- Repeats the part read last, if it can be repeated. -/
def repeatLast? (reading : Reading) (marked : Bool) (least : Nat) (most : Option Nat) :
    Option Reading :=
  match reading.level.parts with
  | ⟨some expr, depth⟩ :: parts =>
      let greedy := marked == reading.flags.swapGreed
      let part : Part := ⟨some (.repetition greedy least most expr), depth + 1⟩
      some { reading with level := { reading.level with parts := part :: parts } }
  | _ => none

/-- Splits off the question mark that marks a repetition. -/
def marked : List Char → Bool × List Char
  | '?' :: rest => (true, rest)
  | rest => (false, rest)

/-- Reads a counted repetition whose opening brace is behind. -/
def readCounted? (reading : Reading) (text : List Char) : Option (Reading × List Char) := do
  let flags := reading.flags
  let (least, text) := readCount flags (skip flags text)
  let finish (least : Nat) (most : Option Nat) (text : List Char) :
      Option (Reading × List Char) :=
    match text with
    | '\x7d' :: rest => do
        let (marked, rest) := marked (skip flags rest)
        if most.all (least ≤ ·) then return (← reading.repeatLast? marked least most, rest)
        else none
    | _ => none
  match text with
  | ',' :: rest =>
      match skip flags rest with
      | '\x7d' :: rest => finish (← least) none ('\x7d' :: rest)
      | rest =>
          let (most, rest) := readCount flags rest
          finish (← least) (some (← most)) rest
  | text => finish (← least) (some (← least)) text

/-- Names of groups begin with a letter or a low line. -/
def isGroupName : List Char → Bool
  | [] => false
  | c :: rest =>
      (c == '_' || Unicode.isLetter c) &&
        rest.all fun c => c ∈ ['_', '.', '[', ']'] || Unicode.isLetterOrNumber c

def readNamed? (reading : Reading) (text : List Char) : Option (Reading × List Char) :=
  let (name, rest) := text.span (· != '>')
  match rest with
  | [] => none
  | _ :: rest =>
      if isGroupName name && name ∉ reading.names then
        some ({ reading with names := name :: reading.names }.openNumbered, rest)
      else none

/-- Reads what follows an opening parenthesis. A directive takes the place of a part; conditions on
what follows or precedes are refused. -/
def readOpening? (reading : Reading) (text : List Char) : Option (Reading × List Char) :=
  match skip reading.flags text with
  | '?' :: '=' :: _ | '?' :: '!' :: _ | '?' :: '<' :: '=' :: _ | '?' :: '<' :: '!' :: _ => none
  | '?' :: 'P' :: '<' :: rest | '?' :: '<' :: rest => reading.readNamed? rest
  | '?' :: rest =>
      let (letters, rest) := rest.span fun c => c != ':' && c != ')'
      match rest with
      | ':' :: rest => do return (reading.openGroup (← reading.flags.update? letters) none, rest)
      | ')' :: rest => do
          let flags ← reading.flags.update? letters
          let level := reading.level.push ⟨none, 0⟩
          if letters.isEmpty then none else return ({ reading with level, flags }, rest)
      | _ => none
  | rest => some (reading.openNumbered, rest)

/-- Reads one part of the pattern, which begins with the character `c`. -/
def step? (reading : Reading) (c : Char) (rest : List Char) : Option (Reading × List Char) :=
  let flags := reading.flags
  let repetition (least : Nat) (most : Option Nat) : Option (Reading × List Char) := do
    let (marked, rest) := marked rest
    return (← reading.repeatLast? marked least most, rest)
  match c with
  | '(' => reading.readOpening? rest
  | ')' => do return (← reading.closeGroup?, rest)
  | '|' => some ({ reading with level := reading.level.split }, rest)
  | '[' => do
      let (inner, rest) ← readClass? flags rest
      return (reading.push (.ofClass inner.chars) inner.depth, rest)
  | '?' => repetition 0 (some 1)
  | '*' => repetition 0 none
  | '+' => repetition 1 none
  | '\x7b' => reading.readCounted? rest
  | '\\' => do
      let (atom, rest) ← readEscape? flags rest
      return (reading.push (← atomExpr? flags atom) 0, rest)
  | '.' => do return (reading.push (.ofClass (← flags.dot?)) 0, rest)
  | '^' => some (reading.push (.look flags.caret) 0, rest)
  | '$' => some (reading.push (.look flags.dollar) 0, rest)
  | c => do return (reading.push (← charExpr? flags c false) 0, rest)

/-- Reads all of a text. Every part takes a character, so the length of the text is a bound. -/
def run? : (steps : Nat) → Reading → List Char → Option Reading
  | 0, reading, text => if (skip reading.flags text).isEmpty then some reading else none
  | steps + 1, reading, text =>
      match skip reading.flags text with
      | [] => some reading
      | c :: rest => do
          let (reading, rest) ← reading.step? c rest
          reading.run? steps rest

end Reading

/-- The greatest depth to which the parts of a pattern may be nested. -/
def depthLimit : Nat := 250

/-- The expression that a text stands for, if the text is a pattern. -/
def Expr.read? (text : List Char) : Option Expr := do
  let reading ← Reading.run? text.length {} text
  let (expr, depth) := reading.level.close
  if reading.outer.isEmpty && depth ≤ depthLimit then some expr else none

end CanonicalLR.Pattern
