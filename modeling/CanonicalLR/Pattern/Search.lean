import Std.Data.HashSet
import CanonicalLR.Lexical.Matcher
import CanonicalLR.Pattern.Program

/-!
The search for the preferred match. An attempt is a place in a program where it goes on. All
attempts follow the text together, in order of preference: `explore` takes each of them up to the
steps that take the next character and goes on behind those that take it. A step met again at the
same place of the text is less preferred than at its first occurrence and leads nowhere new.
-/

namespace CanonicalLR.Pattern

/-- A place in a program, and the place of the text where the match begins. -/
structure Attempt where
  place : Nat
  first : Nat

/-- Attempts in order of preference. -/
abbrev Attempts := List Attempt

/-- Follows the attempts in `todo` up to the first one that is complete. The answer says where those
go on that take the character behind `here`, latest first, and where the complete one begins. At most
`fuel` attempts are looked at. -/
def explore (steps : Steps) (here : Place) : (fuel : Nat) → (todo : Attempts) →
    (met : Std.HashSet Nat) → (taken : Attempts) → Attempts × Option Nat
  | 0, _, _, taken => (taken, none)
  | _, [], _, taken => (taken, none)
  | fuel + 1, ⟨place, first⟩ :: todo, met, taken =>
      if met.contains place then explore steps here fuel todo met taken
      else
        let met := met.insert place
        match steps[place]? with
        | none => explore steps here fuel todo met taken
        | some .done => (taken, some first)
        | some (.take chars next) =>
            let taken := if here.after.any chars.contains then ⟨next, first⟩ :: taken else taken
            explore steps here fuel todo met taken
        | some (.check assertion next) =>
            let todo := if assertion.holds here then ⟨next, first⟩ :: todo else todo
            explore steps here fuel todo met taken
        | some (.fork preferred other) =>
            explore steps here fuel (⟨preferred, first⟩ :: ⟨other, first⟩ :: todo) met taken

/-- Bounds what is looked at: each step is met once and leads to two others at most. -/
def exploreFuel (program : Program) (attempts : Attempts) : Nat :=
  2 * program.steps.size + attempts.length + 1

/-- The attempts at a place: until there is a match, one begins there, less preferred than all
before it. -/
def Program.attemptsAt (program : Program) (position : Nat) (found : Option Stretch)
    (attempts : Attempts) : Attempts :=
  if found.isNone && !(program.anchored && 0 < position) then
    attempts ++ [⟨program.start, position⟩]
  else attempts

/-- Follows all attempts through the text. `position` characters lie behind, `found` is the best
match so far. -/
def Program.search (program : Program) (position : Nat) (found : Option Stretch)
    (before : Option Char) (attempts : Attempts) : List Char → Option Stretch
  | [] =>
      let attempts := program.attemptsAt position found attempts
      let fuel := exploreFuel program attempts
      match (explore program.steps ⟨before, none⟩ fuel attempts ∅ []).2 with
      | some first => some ⟨first, position⟩
      | none => found
  | c :: text =>
      let attempts := program.attemptsAt position found attempts
      let fuel := exploreFuel program attempts
      let (taken, done) := explore program.steps ⟨before, some c⟩ fuel attempts ∅ []
      let found := (done.map fun first => ⟨first, position⟩) <|> found
      if taken.isEmpty && (found.isSome || program.anchored) then found
      else program.search (position + 1) found (some c) taken.reverse text

/-- The text that an expression takes at the start and nowhere else, if it is so simple. -/
def Expr.fixedText? : Expr → Option (List Char)
  | .look .textStart => some []
  | .cat (.look .textStart) (.text chars) => some chars
  | _ => none

def Expr.matcher (e : Expr) : Matcher :=
  match e.fixedText? with
  | some chars => .fixed chars
  | none => ⟨(Program.ofExpr e).search 0 none none []⟩

end CanonicalLR.Pattern
