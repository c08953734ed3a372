import CanonicalLR.Unicode.CharSet
import CanonicalLR.Pattern.Assertion

/-!
Pattern expressions. The order of alternatives is an order of preference, and so is the choice
between one more round of a repetition and leaving it: a greedy one prefers the round.

Expressions are put together by the functions of this module, which leave out what changes nothing:
sequences and choices stand in no sequence or choice of their own kind, neighbouring texts are one
text, and a choice between single characters is a class. How much room an expression takes depends
on that.
-/

namespace CanonicalLR.Pattern

open Unicode

inductive Expr where
  | empty
  /-- Characters one after the other, at least one. -/
  | text (chars : List Char)
  /-- One character of a class, which is not the class of one character. -/
  | one (chars : CharSet)
  | look (assertion : Assertion)
  /-- At least `least` rounds and, if given, at most `most`. -/
  | repeated (greedy : Bool) (least : Nat) (most : Option Nat) (e : Expr)
  /-- A group with a number of its own. -/
  | capture (index : Nat) (e : Expr)
  /-- An expression that is no sequence, and the rest of the sequence. -/
  | cat (a b : Expr)
  /-- An alternative that is no choice, and the others, which are less preferred. -/
  | alt (a b : Expr)
deriving DecidableEq, Repr

namespace Expr

/-! ### Lengths -/

/-- The least number of characters that a match can take, unless the outline of the expression
leaves open whether there is a match at all. -/
def shortest : Expr → Option Nat
  | .empty | .look _ => some 0
  | .text chars => some chars.length
  | .one chars => if chars.isEmpty then none else some 1
  | .repeated _ least _ e => do return (← e.shortest) * least
  | .capture _ e => e.shortest
  | .cat a b => do return (← a.shortest) + (← b.shortest)
  | .alt a b => do return min (← a.shortest) (← b.shortest)

/-- The greatest number of characters that a match can take, if there is one. -/
def longest : Expr → Option Nat
  | .empty | .look _ => some 0
  | .text chars => some chars.length
  | .one chars => if chars.isEmpty then none else some 1
  | .repeated _ _ most e => do return (← e.longest) * (← most)
  | .capture _ e => e.longest
  | .cat a b => do return (← a.longest) + (← b.longest)
  | .alt a b => do return max (← a.longest) (← b.longest)

/-- Whether a match takes no character, whatever the text. -/
def takesNothing (e : Expr) : Bool :=
  e.longest == some 0

/-- Whether every match takes a character. -/
def takesSomething (e : Expr) : Bool :=
  e.shortest.any (0 < ·)

/-! ### Places -/

/-- Whether a match can begin at the start of the text only, as far as the outline of the
expression shows. -/
def startsText : Expr → Bool
  | .look assertion => assertion == .textStart
  | .cat a b => a.startsText || (a.takesNothing && b.startsText)
  | .alt a b => a.startsText && b.startsText
  | .repeated _ least _ e => decide (0 < least) && e.startsText
  | .capture _ e => e.startsText
  | .empty | .text _ | .one _ => false

/-- Whether a match can end at the end of the text only, as far as the outline of the expression
shows. -/
def endsText : Expr → Bool
  | .look assertion => assertion == .textEnd
  | .cat a b => b.endsText || (b.takesNothing && a.endsText)
  | .alt a b => a.endsText && b.endsText
  | .repeated _ least _ e => decide (0 < least) && e.endsText
  | .capture _ e => e.endsText
  | .empty | .text _ | .one _ => false

/-! ### Classes and repetitions -/

def ofChar (c : Char) : Expr :=
  .text [c]

def ofClass (chars : CharSet) : Expr :=
  match chars.single? with
  | some c => ofChar c
  | none => .one chars

/-- A repetition. Rounds that take nothing need not come twice. -/
def repetition (greedy : Bool) (least : Nat) (most : Option Nat) (e : Expr) : Expr :=
  let (least, most) :=
    if e.takesNothing then (min least 1, some (min 1 (most.getD 1))) else (least, most)
  if most == some 0 && least == 0 then .empty
  else if most == some 1 && least == 1 then e
  else .repeated greedy least most e

/-! ### Sequences -/

/-- The parts of a sequence. -/
def parts : Expr → List Expr
  | .cat a b => a :: b.parts
  | .empty => []
  | e => [e]

/-- Makes one text of neighbouring ones. -/
def joinTexts : List Expr → List Expr
  | [] => []
  | .text chars :: later =>
      match joinTexts later with
      | .text more :: later => .text (chars ++ more) :: later
      | later => .text chars :: later
  | e :: later => e :: joinTexts later

def ofParts : List Expr → Expr
  | [] => .empty
  | [e] => e
  | e :: later => .cat e (ofParts later)

def sequence (exprs : List Expr) : Expr :=
  ofParts (joinTexts (exprs.flatMap parts))

/-! ### Choices -/

/-- The alternatives of a choice. -/
def alternatives : Expr → List Expr
  | .alt a b => a :: b.alternatives
  | e => [e]

def ofAlternatives : List Expr → Expr
  | [] => .one .empty
  | [e] => e
  | e :: later => .alt e (ofAlternatives later)

/-- The class of an expression that takes one character of a class. -/
def class? : Expr → Option CharSet
  | .one chars => some chars
  | _ => none

/-- The character of an expression that takes that one alone. -/
def char? : Expr → Option Char
  | .text [c] => some c
  | _ => none

/-- The class that the alternatives make up: all of them are classes, or all are characters. -/
def commonClass? (exprs : List Expr) : Option CharSet :=
  (exprs.mapM char?).map (fun chars => .unionAll (chars.map .single)) <|>
    (exprs.mapM class?).map .unionAll

/-- How many parts two sequences have in common at the start. -/
def sharedParts : List Expr → List Expr → Nat
  | a :: as, b :: bs => if a = b then sharedParts as bs + 1 else 0
  | _, _ => 0

/-- The number of parts with which all alternatives begin, each of which is a sequence. -/
def sharedStart (exprs : List Expr) : Nat :=
  match exprs.map parts with
  | [] => 0
  | first :: later =>
      if (first :: later).all fun each => decide (1 < each.length) then
        later.foldl (fun count each => min count (sharedParts first each)) first.length
      else 0

/-- The choice between expressions, which puts the parts with which all of them begin in front. Each
time that happens there are fewer parts left, which `steps` counts. -/
def choiceWithin : (steps : Nat) → List Expr → Expr
  | 0, exprs => ofAlternatives exprs
  | steps + 1, exprs =>
      let exprs := exprs.flatMap alternatives
      match exprs with
      | [] | [_] => ofAlternatives exprs
      | first :: _ =>
          match commonClass? exprs with
          | some chars => ofClass chars
          | none =>
              let shared := sharedStart exprs
              if shared == 0 then ofAlternatives exprs
              else
                let rests := exprs.map fun e => sequence (e.parts.drop shared)
                sequence (first.parts.take shared ++ [choiceWithin steps rests])

/-- The number of parts at all depths. -/
def size : Expr → Nat
  | .empty | .text _ | .one _ | .look _ => 1
  | .repeated _ _ _ e | .capture _ e => e.size + 1
  | .cat a b | .alt a b => a.size + b.size + 1

/-- The choice between expressions, in order of preference. -/
def choice (exprs : List Expr) : Expr :=
  choiceWithin (exprs.foldl (fun sum e => sum + e.size) 1) exprs

end Expr

end CanonicalLR.Pattern
