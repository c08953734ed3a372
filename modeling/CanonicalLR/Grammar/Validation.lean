import CanonicalLR.Grammar.Basic
import CanonicalLR.Fixpoint
import CanonicalLR.Notice
import CanonicalLR.Ordered.Set

/-!
Validation of a grammar from a root. Every rule that the root reaches has to be defined, choices
need alternatives, repeated bodies have to match something, and no rule may stand for itself with
nothing else matched: a parse could then go on for ever. Rules out of reach and rules that begin
with themselves are only noticed.
-/

namespace CanonicalLR.Grammar

/-- The rules that a rule reaches through references, itself included. -/
def reachable (grammar : Grammar) (root : RuleId) : OrderedSet RuleId :=
  let grow (ids : OrderedSet RuleId) := ids.insertAll (ids.members.flatMap grammar.references)
  settle grow (grammar.referenceCount + 1) (.ofList [root])

/-- The rules among `ids` whose bodies can match nothing. -/
def nullableRules (grammar : Grammar) (ids : OrderedSet RuleId) : OrderedSet RuleId :=
  let visit (known : OrderedSet RuleId) (id : RuleId) : OrderedSet RuleId :=
    match grammar.bodyOf? id with
    | some body => if bodyNullable (· ∈ known) body then known.insert id else known
    | none => known
  settle (fun known => ids.members.foldl visit known) (ids.size + 1) .empty

def unitTargets (grammar : Grammar) (nullable : OrderedSet RuleId) (id : RuleId) : List RuleId :=
  match grammar.bodyOf? id with
  | some body => bodyUnitTargets (· ∈ nullable) true body
  | none => []

def derivesItself (grammar : Grammar) (ids nullable : OrderedSet RuleId) (id : RuleId) : Bool :=
  let targets := grammar.unitTargets nullable
  let grow (found : OrderedSet RuleId) := found.insertAll (found.members.flatMap targets)
  id ∈ settle grow (ids.size + 1) (.ofList (targets id))

/-- The first rule among `ids` that is unknown or has no body. -/
def firstUndefined? (grammar : Grammar) (ids : OrderedSet RuleId) : Option ValidationError :=
  ids.members.findSome? fun id =>
    match grammar.get? id with
    | none => some (.unknownRule id)
    | some rule => if rule.isDefined then none else some (.undefined rule.name)

/-- The name of the first rule among `ids` whose body satisfies a condition. -/
def firstWith? (grammar : Grammar) (ids : OrderedSet RuleId) (holds : RuleId → List Op → Bool) :
    Option String :=
  ids.members.findSome? fun id => do
    let rule ← grammar.get? id
    if holds id (← rule.body) then some rule.name else none

def unreachableNotices (grammar : Grammar) (ids : OrderedSet RuleId) : List Notice :=
  (List.range grammar.rules.size).filterMap fun id => do
    let rule ← grammar.get? id
    if id ∈ ids then none else some (.unreachableRule rule.name)

def leftRecursionNotices (grammar : Grammar) (ids : OrderedSet RuleId) : List Notice :=
  ids.members.filterMap fun id => do
    let rule ← grammar.get? id
    if bodyStartsWith id (← rule.body) then some (.leftRecursion rule.name) else none

/-- The first fault of the bodies of `ids`, which are all defined. -/
def firstFault? (grammar : Grammar) (ids : OrderedSet RuleId) : Option ValidationError :=
  let nullable := grammar.nullableRules ids
  let emptyAlternation := grammar.firstWith? ids fun _ body => bodyHasEmptyChoice body
  let nullableRepetition := grammar.firstWith? ids fun _ body =>
    bodyRepeatsNothing (· ∈ nullable) body
  let unitCycle := grammar.firstWith? ids fun id _ => grammar.derivesItself ids nullable id
  emptyAlternation.map .emptyAlternation
    <|> nullableRepetition.map .nullableRepetition
    <|> unitCycle.map .unitCycle

/-- Checks a grammar from a root. Of several faults the first in the order of this file's opening
words is reported, and of several rules with it the one declared first. -/
def validate (grammar : Grammar) (root : RuleId) : Except ValidationError Unit × List Notice :=
  if (grammar.get? root).isNone then (.error (.unknownRule root), [])
  else
    let ids := grammar.reachable root
    match grammar.firstUndefined? ids with
    | some error => (.error error, [])
    | none =>
        let notices := grammar.unreachableNotices ids
        match grammar.firstFault? ids with
        | some error => (.error error, notices)
        | none => (.ok (), notices ++ grammar.leftRecursionNotices ids)

end CanonicalLR.Grammar
