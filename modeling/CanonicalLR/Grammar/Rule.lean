import CanonicalLR.Lexical.Group

/-!
Rules of a grammar. The body of a rule is a sequence of operations, some of which hold sequences of
their own. The functions of this file look at bodies as written, at any depth.
-/

namespace CanonicalLR

/-- The handle of a rule: its place in the order of declaration. -/
abbrev RuleId := Nat

inductive Op where
  /-- One token. -/
  | consume (terminal : Terminal)
  /-- The sequence or nothing. -/
  | option (body : List Op)
  /-- The sequence any number of times. -/
  | many (body : List Op)
  /-- One of the alternatives. -/
  | choice (alternatives : List (List Op))
  /-- What another rule stands for. -/
  | subRule (rule : RuleId)
  /-- One token out of a group. -/
  | group (name : String) (members : List Terminal)
deriving Repr

/-- Taking a token out of a group. A group with a single member is that token. -/
def Op.ofGroup (group : TokenGroup) : Op :=
  match group.members with
  | [only] => .consume only
  | members => .group group.name members

structure Rule where
  name : String
  /-- Absent until the rule is defined. -/
  body : Option (List Op)
deriving Repr

namespace Rule

def isDefined (rule : Rule) : Bool :=
  rule.body.isSome

/-- The name of the start symbol that is added to a grammar. -/
def startName : String := "S'"

/-- What the names of repetitions begin with. -/
def repetitionMark : String := "MANY_"

def isRepetition (name : String) : Bool :=
  repetitionMark.toList.isPrefixOf name.toList

def isReserved (name : String) : Bool :=
  name == startName || isRepetition name

end Rule

/-! ### References, in the order in which they are written -/

mutual

def Op.references : Op → List RuleId
  | .consume _ | .group _ _ => []
  | .option body | .many body => bodyReferences body
  | .choice alternatives => choiceReferences alternatives
  | .subRule rule => [rule]

def bodyReferences : List Op → List RuleId
  | [] => []
  | op :: rest => op.references ++ bodyReferences rest

def choiceReferences : List (List Op) → List RuleId
  | [] => []
  | body :: rest => bodyReferences body ++ choiceReferences rest

end

/-! ### Choices without anything to choose -/

mutual

def Op.hasEmptyChoice : Op → Bool
  | .consume _ | .subRule _ => false
  | .option body | .many body => bodyHasEmptyChoice body
  | .choice alternatives => alternatives.isEmpty || choiceHasEmptyChoice alternatives
  | .group _ members => members.isEmpty

def bodyHasEmptyChoice : List Op → Bool
  | [] => false
  | op :: rest => op.hasEmptyChoice || bodyHasEmptyChoice rest

def choiceHasEmptyChoice : List (List Op) → Bool
  | [] => false
  | body :: rest => bodyHasEmptyChoice body || choiceHasEmptyChoice rest

end

/-! ### Matching nothing, given the rules that can -/

mutual

def Op.nullable (rules : RuleId → Bool) : Op → Bool
  | .consume _ | .group _ _ => false
  | .option _ | .many _ => true
  | .choice alternatives => choiceNullable rules alternatives
  | .subRule rule => rules rule

def bodyNullable (rules : RuleId → Bool) : List Op → Bool
  | [] => true
  | op :: rest => op.nullable rules && bodyNullable rules rest

def choiceNullable (rules : RuleId → Bool) : List (List Op) → Bool
  | [] => false
  | body :: rest => bodyNullable rules body || choiceNullable rules rest

end

mutual

/-- Whether some repetition repeats a body that can match nothing. -/
def Op.repeatsNothing (rules : RuleId → Bool) : Op → Bool
  | .consume _ | .subRule _ | .group _ _ => false
  | .option body => bodyRepeatsNothing rules body
  | .many body => bodyNullable rules body || bodyRepeatsNothing rules body
  | .choice alternatives => choiceRepeatsNothing rules alternatives

def bodyRepeatsNothing (rules : RuleId → Bool) : List Op → Bool
  | [] => false
  | op :: rest => op.repeatsNothing rules || bodyRepeatsNothing rules rest

def choiceRepeatsNothing (rules : RuleId → Bool) : List (List Op) → Bool
  | [] => false
  | body :: rest => bodyRepeatsNothing rules body || choiceRepeatsNothing rules rest

end

mutual

/-- The rules that can stand for the whole operation. -/
def Op.unitTargets (rules : RuleId → Bool) : Op → List RuleId
  | .consume _ | .group _ _ => []
  | .option body | .many body => bodyUnitTargets rules true body
  | .choice alternatives => choiceUnitTargets rules alternatives
  | .subRule rule => [rule]

/-- The rules that can stand for the whole sequence, all else in it matching nothing; `before` says
whether all that came before can. -/
def bodyUnitTargets (rules : RuleId → Bool) (before : Bool) : List Op → List RuleId
  | [] => []
  | op :: rest =>
      (if before && bodyNullable rules rest then op.unitTargets rules else []) ++
        bodyUnitTargets rules (before && op.nullable rules) rest

def choiceUnitTargets (rules : RuleId → Bool) : List (List Op) → List RuleId
  | [] => []
  | body :: rest => bodyUnitTargets rules true body ++ choiceUnitTargets rules rest

end

/-! ### Beginnings -/

/-- Whether the search for the beginning of a sequence passes over an operation. After a choice
nothing else counts as a beginning. -/
def Op.isPassedOver : Op → Bool
  | .option _ | .many _ => true
  | .consume _ | .choice _ | .subRule _ | .group _ _ => false

mutual

def Op.startsWith (rule : RuleId) : Op → Bool
  | .consume _ | .group _ _ => false
  | .option body | .many body => bodyStartsWith rule body
  | .choice alternatives => choiceStartsWith rule alternatives
  | .subRule other => other == rule

def bodyStartsWith (rule : RuleId) : List Op → Bool
  | [] => false
  | op :: rest => op.startsWith rule || (op.isPassedOver && bodyStartsWith rule rest)

def choiceStartsWith (rule : RuleId) : List (List Op) → Bool
  | [] => false
  | body :: rest => bodyStartsWith rule body || choiceStartsWith rule rest

end

end CanonicalLR
