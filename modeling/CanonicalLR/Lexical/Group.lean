import CanonicalLR.Lexical.Kind
import CanonicalLR.Ordered.Map

/-!
Token groups. Each group fills a numbered slot, and its members are reported under its name. A
token that several groups list belongs to one of them: to the group defined last, and when that
group is defined anew without it, to the listing group in the highest slot.
-/

namespace CanonicalLR

structure TokenGroup where
  name : String
  slot : Nat
  members : List Terminal
deriving DecidableEq, Repr

def TokenGroup.contains (group : TokenGroup) (terminal : Terminal) : Bool :=
  group.members.contains terminal

/-- The groups by slot, the slot of the group that each token belongs to, and the first slot above
all that were used. -/
structure GroupTable where
  groups : OrderedMap Nat TokenGroup := .empty
  owners : OrderedMap Terminal Nat := .empty
  nextSlot : Nat := 0

namespace GroupTable

/-- Gives the members of a group to it. -/
def claim (owners : OrderedMap Terminal Nat) (group : TokenGroup) : OrderedMap Terminal Nat :=
  group.members.foldl (fun owners member => owners.insert member group.slot) owners

/-- Gives those members of a group to it that belong to no other. -/
def claimFree (owners : OrderedMap Terminal Nat) (group : TokenGroup) : OrderedMap Terminal Nat :=
  group.members.foldl (fun owners member => owners.insertNew member group.slot) owners

/-- Puts a group into its slot. Tokens that the slot gives up fall to the other groups that list
them, those in higher slots first. -/
def define (table : GroupTable) (group : TokenGroup) : GroupTable :=
  let kept := table.owners.filter fun _ slot => slot != group.slot
  let groups := table.groups.insert group.slot group
  { groups
    owners := groups.values.reverse.foldl claimFree (claim kept group)
    nextSlot := max table.nextSlot (group.slot + 1) }

def toList (table : GroupTable) : List TokenGroup :=
  table.groups.values

/-- The group that a token belongs to. -/
def groupOf? (table : GroupTable) (terminal : Terminal) : Option TokenGroup := do
  table.groups.get? (← table.owners.get? terminal)

end GroupTable

end CanonicalLR
