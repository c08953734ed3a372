import CanonicalLR.Lexical.Group

/-!
Vocabularies: token kinds numbered in the order of their creation, and their groups.
-/

namespace CanonicalLR

structure Vocabulary where
  kinds : Array TokenKind := #[]
  groupTable : GroupTable := {}

namespace Vocabulary

/-- Adds a kind with a pattern. A text that is no pattern adds nothing. -/
def token [PatternLibrary] (vocabulary : Vocabulary) (name source : String) :
    Except TokenError (TokenKind × Vocabulary) :=
  if Terminal.greatest < vocabulary.kinds.size then .error .tooManyTokens
  else do
    let kind ← TokenKind.make? name source (Int.ofNat vocabulary.kinds.size)
    return (kind, { vocabulary with kinds := vocabulary.kinds.push kind })

/-- Adds a kind whose tokens all have the same text. -/
def literal [PatternLibrary] (vocabulary : Vocabulary) (name text : String) :
    Except TokenError (TokenKind × Vocabulary) :=
  vocabulary.token name (String.ofList (PatternLibrary.escape text.toList))

/-- Puts a group into a slot, in place of the group that was there. -/
def redefineGroup (vocabulary : Vocabulary) (slot : Nat) (name : String)
    (members : List TokenKind) : TokenGroup × Vocabulary :=
  let group : TokenGroup := { name, slot, members := members.map (·.index) }
  (group, { vocabulary with groupTable := vocabulary.groupTable.define group })

/-- Puts a group into the next slot above all that were used. -/
def group (vocabulary : Vocabulary) (name : String) (members : List TokenKind) :
    TokenGroup × Vocabulary :=
  vocabulary.redefineGroup vocabulary.groupTable.nextSlot name members

def get? (vocabulary : Vocabulary) (index : Terminal) : Option TokenKind :=
  match index with
  | .ofNat index => vocabulary.kinds[index]?
  | .negSucc _ => none

def nameOf? (vocabulary : Vocabulary) (index : Terminal) : Option String :=
  if index == Terminal.eof then some Terminal.eofName else (vocabulary.get? index).map (·.name)

def groups (vocabulary : Vocabulary) : List TokenGroup :=
  vocabulary.groupTable.toList

def groupOf? (vocabulary : Vocabulary) (index : Terminal) : Option TokenGroup :=
  vocabulary.groupTable.groupOf? index

end Vocabulary

end CanonicalLR
