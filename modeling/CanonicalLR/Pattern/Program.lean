import CanonicalLR.Pattern.Expr

/-!
Programs for the search. The steps of a program stand in an array and name those that follow them by
place.
-/

namespace CanonicalLR.Pattern

open Unicode

inductive Step where
  /-- The match is complete. -/
  | done
  /-- Takes one character of a class. -/
  | take (chars : CharSet) (next : Nat)
  /-- Goes on where an assertion holds. -/
  | check (assertion : Assertion) (next : Nat)
  /-- Goes on in two ways, of which the first is preferred. -/
  | fork (first second : Nat)
deriving DecidableEq, Repr

abbrev Steps := Array Step

/-- A fork between one more round and leaving. -/
def Step.turn (greedy : Bool) (round leave : Nat) : Step :=
  if greedy then .fork round leave else .fork leave round

/-- Compiles a part that goes on at the place given: the place where it begins, and the steps with
those of the part added. -/
abbrev Compiler := (next : Nat) → Steps → Nat × Steps

namespace Compiler

def step (make : Nat → Step) : Compiler := fun next steps =>
  (steps.size, steps.push (make next))

/-- Rounds one after the other. -/
def times (round : Compiler) : (count : Nat) → Compiler
  | 0, next, steps => (next, steps)
  | count + 1, next, steps =>
      let (start, steps) := round next steps
      times round count start steps

/-- At most `count` rounds, each with a way out in front of it that leads to `leave`. -/
def upTo (greedy : Bool) (round : Compiler) (leave : Nat) : (count : Nat) → Compiler
  | 0, next, steps => (next, steps)
  | count + 1, next, steps =>
      let (start, steps) := round next steps
      upTo greedy round leave count steps.size (steps.push (.turn greedy start leave))

/-- One round or more: the place where the first round begins, the fork behind a round, and the
steps. -/
def loop (greedy : Bool) (round : Compiler) (next : Nat) (steps : Steps) : Nat × Nat × Steps :=
  let turn := steps.size
  let (start, steps) := round turn (steps.push .done)
  (start, turn, steps.setIfInBounds turn (.turn greedy start next))

/-- Any number of rounds. Where a round can be empty, the way into the first one is a fork of its
own: an empty first round ends the repetition at its place in the order of preference, an empty
later one adds nothing. -/
def star (greedy moving : Bool) (round : Compiler) : Compiler := fun next steps =>
  let (start, turn, steps) := loop greedy round next steps
  if moving then (turn, steps) else (steps.size, steps.push (.turn greedy start next))

/-- A repetition; `moving` says that a round always takes a character. -/
def repetition (greedy moving : Bool) (least : Nat) (most : Option Nat) (round : Compiler) :
    Compiler := fun next steps =>
  match most with
  | some most =>
      let (start, steps) := upTo greedy round next (most - least) next steps
      times round least start steps
  | none =>
      match least with
      | 0 => star greedy moving round next steps
      | before + 1 =>
          let (start, _, steps) := loop greedy round next steps
          times round before start steps

end Compiler

/-- Compiles an expression that goes on at `next`. -/
def Expr.compile : Expr → Compiler
  | .empty => fun next steps => (next, steps)
  | .text chars => fun next steps =>
      chars.foldr (fun c (next, steps) => Compiler.step (.take (.single c)) next steps)
        (next, steps)
  | .one chars => .step (.take chars)
  | .look assertion => .step (.check assertion)
  | .repeated greedy least most e =>
      .repetition greedy e.takesSomething least most e.compile
  | .capture _ e => e.compile
  | .cat a b => fun next steps =>
      let (middle, steps) := b.compile next steps
      a.compile middle steps
  | .alt a b => fun next steps =>
      let (second, steps) := b.compile next steps
      let (first, steps) := a.compile next steps
      (steps.size, steps.push (.fork first second))

/-- The steps of a pattern, where the search begins, and whether it begins at the start of the text
only. -/
structure Program where
  steps : Steps
  start : Nat
  anchored : Bool
deriving DecidableEq, Repr

def Program.ofExpr (e : Expr) : Program :=
  let (start, steps) := e.compile 0 #[.done]
  ⟨steps, start, e.startsText⟩

end CanonicalLR.Pattern
