import CanonicalLR.Ordered.Map
import CanonicalLR.Ordered.Set
import Std.Data.TreeMap.Lemmas
import Std.Data.TreeSet.Lemmas

/-!
Ordered sets and maps of numbers, out of search trees.
-/

namespace CanonicalLR

def OrderedSet.ofTree (tree : Std.TreeSet Nat) : OrderedSet Nat :=
  ⟨tree.toList, tree.ordered_toList.imp Nat.compare_eq_lt.mp⟩

@[simp] theorem OrderedSet.mem_ofTree {tree : Std.TreeSet Nat} {key : Nat} :
    key ∈ ofTree tree ↔ key ∈ tree :=
  Std.TreeSet.mem_toList

theorem OrderedSet.insert_ofTree (tree : Std.TreeSet Nat) (key : Nat) :
    (ofTree tree).insert key = ofTree (tree.insert key) := by
  apply ext
  intro other
  rw [mem_insert, mem_ofTree, mem_ofTree, Std.TreeSet.mem_insert, Nat.compare_eq_eq, eq_comm]

def OrderedMap.ofTree {α : Type} (tree : Std.TreeMap Nat α) : OrderedMap Nat α :=
  ⟨tree.toList, tree.ordered_keys_toList.imp Nat.compare_eq_lt.mp⟩

@[simp] theorem OrderedMap.get?_ofTree {α : Type} (tree : Std.TreeMap Nat α) (key : Nat) :
    (ofTree tree).get? key = tree[key]? := by
  ext value
  rw [get?_eq_some_iff]
  exact Std.TreeMap.mem_toList_iff_getElem?_eq_some

theorem OrderedMap.alter_ofTree {α : Type} (tree : Std.TreeMap Nat α) (key : Nat)
    (value : Option α → α) :
    (ofTree tree).alter key value = ofTree (tree.insert key (value tree[key]?)) := by
  apply ext_get?
  intro other
  rw [get?_ofTree, Std.TreeMap.getElem?_insert]
  split
  · rename_i same
    rw [← Nat.compare_eq_eq.mp same, get?_alter_self, get?_ofTree]
  · rename_i differ
    rw [get?_alter_of_ne _ (fun same => differ (Nat.compare_eq_eq.mpr same.symm)), get?_ofTree]

end CanonicalLR
