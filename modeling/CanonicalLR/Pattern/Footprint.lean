import Std.Data.HashMap
import CanonicalLR.Pattern.ByteRange
import CanonicalLR.Pattern.Expr

/-!
The room that a pattern takes. A pattern stands for an automaton over bytes, once to be run forwards
and once backwards, and neither may take more than `roomLimit` bytes. The automata are counted here
and not built: a state takes 32 bytes, each branch of a state on bytes 8, and each way out of a
state that forks 4.

The count follows the order in which the states come about, because classes share states: a state of
a class with the same branches as an earlier one is not made again while that one is remembered, and
where it is remembered depends on the numbers of the states.
-/

namespace CanonicalLR.Pattern

open Unicode

/-- The bytes that an automaton may take. -/
def roomLimit : Nat := 10485760

/-- The states so far and the bytes beside them. The next state takes the number `states`. -/
structure Tally where
  states : Nat
  bytes : Nat
deriving DecidableEq, Repr

/-- Counts states and bytes in, unless they take too much room. -/
def Tally.add? (tally : Tally) (states bytes : Nat) : Option Tally :=
  let tally : Tally := ⟨tally.states + states, tally.bytes + bytes⟩
  if 32 * tally.states + tally.bytes ≤ roomLimit then some tally else none

/-! ### States that are shared -/

/-- What is remembered: in each slot the latest state, found by what it was made of. -/
abbrev Memory (α : Type) := Std.HashMap Nat (α × Nat)

/-- Mixes a number into the hash of the numbers before it. -/
def mixHash (hash : UInt64) (number : Nat) : UInt64 :=
  (hash ^^^ number.toUInt64) * 1099511628211

def emptyHash : UInt64 := 14695981039346656037

/-- The state that was made of `key`, or else a new one. -/
def remembered? {α : Type} [BEq α] (key : α) (slot branches : Nat) (tally : Tally)
    (memory : Memory α) : Option (Nat × Tally × Memory α) :=
  match memory[slot]?.filter (·.1 == key) with
  | some (_, state) => some (state, tally, memory)
  | none => do
      return (tally.states, ← tally.add? 1 (8 * branches), memory.insert slot (key, tally.states))

/-- A branch: its byte range and the state that it leads to. -/
abbrev Branch := ByteRange × Nat

/-- Counts in the states of a tree, those below a state before it. `made` holds the branches of the
current state so far, latest first, and `hash` is made of them. -/
def addTree? (target : Nat) : ByteTree → (made : List Branch) → (hash : UInt64) → Tally →
    Memory (List Branch) → Option (Nat × Tally × Memory (List Branch))
  | .target, _, _, tally, memory => some (target, tally, memory)
  | .nil, made, hash, tally, memory =>
      remembered? made (hash.toNat % 10000) made.length tally memory
  | .branch range below later, made, hash, tally, memory => do
      let (next, tally, memory) ← addTree? target below [] emptyHash tally memory
      addTree? target later ((range, next) :: made)
        (mixHash (mixHash (mixHash hash range.1) range.2) next) tally memory

/-- Counts in the states of a path that leads backwards to `state`, each of which has one branch. -/
def addPath? (state : Nat) : List ByteRange → Tally → Memory Branch →
    Option (Tally × Memory Branch)
  | [], tally, memory => some (tally, memory)
  | range :: path, tally, memory => do
      let hash := mixHash (mixHash (mixHash emptyHash state) range.1) range.2
      let (state, tally, memory) ← remembered? (range, state) (hash.toNat % 1000) 0 tally memory
      addPath? state path tally memory

/-- Counts in a fork between paths. -/
def addPaths? (target : Nat) : List (List ByteRange) → Tally → Memory Branch → Option Tally
  | [], tally, _ => some tally
  | path :: paths, tally, memory => do
      let (tally, memory) ← addPath? target path tally memory
      addPaths? target paths (← tally.add? 0 4) memory

/-! ### Choices between texts -/

/-- A place in the tree of several texts: its branches since a text last ended there, each with the
place that it leads to, and how many there were before each text that ended. -/
structure Fork where
  closed : List Nat := []
  branches : List (Nat × Nat) := []
deriving DecidableEq, Repr

namespace Fork

def isLeaf (fork : Fork) : Bool :=
  fork.branches.isEmpty && fork.closed.all (· == 0)

/-- Notes that a text ends here. It is not noted twice where no text goes on. -/
def close (fork : Fork) : Fork :=
  if fork.isLeaf && !fork.closed.isEmpty then fork
  else ⟨fork.branches.length :: fork.closed, []⟩

/-- Branches that are looked at together, and the fork between these and the ends of texts. -/
def tally (fork : Fork) : Tally :=
  if fork.isLeaf then ⟨0, 0⟩
  else
    let sizes := (fork.branches.length :: fork.closed).filter (0 < ·)
    sizes.foldl
      (fun tally size => ⟨tally.states + 1, tally.bytes + 4 + if size < 2 then 0 else 8 * size⟩)
      ⟨1, 4 * fork.closed.length⟩

end Fork

/-- Adds a text to a tree of texts, from the place `here` on. -/
def addText (forks : Array Fork) (here : Nat) : List Nat → Array Fork
  | [] => forks.modify here Fork.close
  | byte :: later =>
      match (forks[here]?.bind fun fork => fork.branches.lookup byte) with
      | some next => addText forks next later
      | none =>
          let next := forks.size
          let forks := forks.modify here fun fork =>
            { fork with branches := (byte, next) :: fork.branches }
          addText (forks.push {}) next later

/-- The room for a choice between texts. -/
def tallyOfTexts (texts : List (List Nat)) : Tally :=
  (texts.foldl (fun forks text => addText forks 0 text) #[{}]).foldl
    (fun sum fork => ⟨sum.states + fork.tally.states, sum.bytes + fork.tally.bytes⟩) ⟨1, 0⟩

/-! ### Expressions -/

/-- What is counted in for an expression, in the order in which it is. -/
inductive Layout where
  /-- States that share nothing. -/
  | fixed (tally : Tally)
  /-- A class to be read forwards. -/
  | tree (tree : ByteTree)
  /-- A class to be read backwards. -/
  | paths (paths : List (List ByteRange))
  /-- A group that notes where it begins and ends. -/
  | noted (inner : Layout)
  | both (first second : Layout)
  | choice (alternatives : List Layout)
  /-- A repetition; `moving` says that a round always takes a character. -/
  | rounds (moving : Bool) (least : Nat) (most : Option Nat) (round : Layout)

namespace Layout

/-- The encoding of a text in reading order. -/
def bytesOf (forwards : Bool) (chars : List Char) : List Nat :=
  let bytes := chars.flatMap fun c => utf8Bytes c.toNat
  if forwards then bytes else bytes.reverse

def ofClass (forwards : Bool) (chars : CharSet) : Layout :=
  if chars.isAscii then .fixed ⟨2, 8 * chars.ranges.size⟩
  else
    let paths := pathsOf chars
    if forwards then .tree (.ofPaths paths) else .paths paths

def text? : Expr → Option (List Char)
  | .text chars => some chars
  | _ => none

/-- The layout of an expression, of whose alternatives the layouts are given. -/
def join (forwards : Bool) (e : Expr) (alternatives : List Layout) : Layout :=
  match alternatives with
  | [layout] => layout
  | _ =>
      match e.alternatives.mapM text? with
      | some texts => .fixed (tallyOfTexts (texts.map (bytesOf forwards)))
      | none => .choice alternatives

/-- The layouts of the alternatives of an expression. -/
def ofAlternatives (forwards : Bool) : Expr → List Layout
  | .empty | .look _ => [.fixed ⟨1, 0⟩]
  | .text chars => [.fixed ⟨(bytesOf forwards chars).length, 0⟩]
  | .one chars => [ofClass forwards chars]
  | .repeated _ least most e =>
      [.rounds e.takesSomething least most (join forwards e (ofAlternatives forwards e))]
  | .capture _ e =>
      let inner := join forwards e (ofAlternatives forwards e)
      [if forwards then .noted inner else inner]
  | .cat a b =>
      let first := join forwards a (ofAlternatives forwards a)
      let second := join forwards b (ofAlternatives forwards b)
      [if forwards then .both first second else .both second first]
  | .alt a b => ofAlternatives forwards a ++ ofAlternatives forwards b

def ofExpr (forwards : Bool) (e : Expr) : Layout :=
  join forwards e (ofAlternatives forwards e)

end Layout

/-- What has been counted, and whether a fork comes last, to which the next state is one more way
out. -/
structure Counted where
  tally : Tally
  forksLast : Bool
deriving DecidableEq, Repr

/-- Counts in the way to the next state. -/
def Counted.link? (counted : Counted) : Option Tally :=
  if counted.forksLast then counted.tally.add? 0 4 else some counted.tally

/-- Counts in `count` more rounds, each linked to what comes before it. -/
def addCopies? (round : Tally → Option Counted) : (count : Nat) → Counted → Option Counted
  | 0, counted => some counted
  | count + 1, counted => do addCopies? round count (← round (← counted.link?))

/-- Counts in exactly `count` rounds. -/
def addExactly? (round : Tally → Option Counted) : (count : Nat) → Tally → Option Counted
  | 0, tally => do return ⟨← tally.add? 1 0, false⟩
  | count + 1, tally => do addCopies? round count (← round tally)

/-- Counts in at least `least` rounds. -/
def addAtLeast? (round : Tally → Option Counted) (moving : Bool) (least : Nat) (tally : Tally) :
    Option Counted :=
  match least with
  | 0 =>
      if moving then do
        let last ← round (← tally.add? 1 4)
        return ⟨← last.link?, true⟩
      else do
        let last ← round tally
        return ⟨← (← last.link?).add? 3 16, false⟩
  | 1 => do
      let last ← round tally
      return ⟨← (← last.link?).add? 1 4, true⟩
  | before + 1 => do
      let first ← addExactly? round before tally
      let last ← round (← first.link?)
      return ⟨← (← last.link?).add? 1 4, true⟩

/-- Counts in up to `count` rounds, each with a fork in front of it. -/
def addOptional? (round : Tally → Option Counted) : (count : Nat) → Counted → Option Counted
  | 0, counted => some counted
  | count + 1, counted => do
      addOptional? round count (← round (← (← counted.link?).add? 1 8))

def addRounds? (round : Tally → Option Counted) (moving : Bool) (least : Nat) (most : Option Nat)
    (tally : Tally) : Option Counted :=
  match most with
  | none => addAtLeast? round moving least tally
  | some most =>
      if most == least then addExactly? round least tally
      else if least == 0 && most == 1 then do
        let last ← round (← tally.add? 1 8)
        return ⟨← (← last.link?).add? 1 0, false⟩
      else do
        let first ← addExactly? round least tally
        let last ← addOptional? round (most - least)
          { first with tally := ← first.tally.add? 1 0 }
        return ⟨← last.link?, false⟩

mutual

def Layout.add? : Layout → Tally → Option Counted
  | .fixed room, tally => do return ⟨← tally.add? room.states room.bytes, false⟩
  | .tree root, tally => do
      let target := tally.states
      let (_, tally, _) ← addTree? target root [] emptyHash (← tally.add? 1 0) ∅
      return ⟨tally, false⟩
  | .paths all, tally => do
      let target := tally.states + 1
      return ⟨← addPaths? target all (← tally.add? 2 0) ∅, false⟩
  | .noted inner, tally => do
      let counted ← inner.add? (← tally.add? 1 0)
      return ⟨← (← counted.link?).add? 1 0, false⟩
  | .both first second, tally => do
      let counted ← first.add? tally
      second.add? (← counted.link?)
  | .choice alternatives, tally => do
      return ⟨← addAlternatives? alternatives 0 tally, false⟩
  | .rounds moving least most round, tally => addRounds? round.add? moving least most tally

/-- Counts in alternatives, of which `before` have been counted. The fork and the place behind all
of them come about with the second. -/
def Layout.addAlternatives? : List Layout → (before : Nat) → Tally → Option Tally
  | [], _, tally => some tally
  | first :: later, before, tally => do
      let counted ← first.add? tally
      let tally ← (← counted.link?).add? (if before == 1 then 2 else 0) 4
      addAlternatives? later (before + 1) tally

end

/-- Counts the automaton of an expression. One that may begin at any place starts with a loop over
all bytes; the forward one notes where the match begins and ends. -/
def tallyOf? (forwards : Bool) (e : Expr) : Option Tally := do
  let anchored := if forwards then e.startsText else e.endsText
  let note := if forwards then 1 else 0
  let tally ← if anchored then Tally.add? ⟨0, 0⟩ 1 0 else Tally.add? ⟨0, 0⟩ 3 16
  let counted ← (Layout.ofExpr forwards e).add? (← tally.add? note 0)
  (← counted.link?).add? (note + 1) 0

/-- Whether the pattern takes no more room than it may. -/
def Expr.fits (e : Expr) : Bool :=
  (tallyOf? true e).isSome && (tallyOf? false e).isSome

end CanonicalLR.Pattern
