import CanonicalLR.Table.Basic

/-!
What a state accepts next, in words. Terminals are listed in their order, the end of the input
last; terminals that the table has no name for are left out.
-/

namespace CanonicalLR

structure Expected where
  /-- The groups, then the tokens outside of all groups. -/
  labels : List String := []
  tokens : List String := []
deriving DecidableEq, Repr

/-- Adds what is not there yet, at the end. -/
def extendUnique (list : List String) (more : List String) : List String :=
  more.foldl (fun list text => if list.contains text then list else list ++ [text]) list

namespace Table

/-- The terminals that a state has an action on, the end of the input last. -/
def acceptedTerminals (table : Table) (state : Nat) : List Terminal :=
  let terminals := (table.actions[state]?.getD #[]).toList.map (·.terminal)
  terminals.filter (· != Terminal.eof) ++ terminals.filter (· == Terminal.eof)

def expected (table : Table) (state : Nat) : Expected :=
  let entries := (table.acceptedTerminals state).filterMap table.terminalEntry?
  let groups := entries.filterMap (·.group)
  let ungrouped := (entries.filter (·.group.isNone)).map (·.name)
  { labels := extendUnique [] groups ++ extendUnique [] ungrouped
    tokens := extendUnique [] (entries.map (·.name)) }

end Table

end CanonicalLR
