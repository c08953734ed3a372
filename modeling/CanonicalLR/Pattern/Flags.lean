import CanonicalLR.Unicode.CaseFolding
import CanonicalLR.Pattern.CharClass
import CanonicalLR.Pattern.Expr

/-!
Flags of a pattern: how its letters, dots, anchors and repetitions are to be understood. A group
may set them for itself, and a directive sets them for what is left of the group around it.
-/

namespace CanonicalLR.Pattern

open Unicode

structure Flags where
  /-- `i`: letters stand for all their case variants. -/
  ignoreCase : Bool := false
  /-- `m`: anchors hold at line ends as well. -/
  multiLine : Bool := false
  /-- `s`: a dot takes line feeds too. -/
  dotNewline : Bool := false
  /-- `U`: repetitions are lazy unless marked. -/
  swapGreed : Bool := false
  /-- `R`: carriage returns end lines too. -/
  crlf : Bool := false
  /-- `x`: blanks and comments between the parts of a pattern mean nothing. -/
  verbose : Bool := false
  /-- `u`: classes and words are those of Unicode, not those of ASCII. -/
  unicode : Bool := true
deriving DecidableEq, Repr

namespace Flags

def set? (flags : Flags) (on : Bool) : Char → Option Flags
  | 'i' => some { flags with ignoreCase := on }
  | 'm' => some { flags with multiLine := on }
  | 's' => some { flags with dotNewline := on }
  | 'U' => some { flags with swapGreed := on }
  | 'R' => some { flags with crlf := on }
  | 'x' => some { flags with verbose := on }
  | 'u' => some { flags with unicode := on }
  | _ => none

/-- Sets the flags listed, those after a minus sign to off. -/
def setAll? (flags : Flags) (on : Bool) : List Char → Option Flags
  | [] => some flags
  | '-' :: rest => flags.setAll? false rest
  | c :: rest => do (← flags.set? on c).setAll? on rest

/-- Reads a list of flags. None occurs twice, nor does the minus sign, which is not the last. -/
def update? (flags : Flags) (letters : List Char) : Option Flags :=
  if letters.eraseDups == letters && letters.getLast? != some '-' then flags.setAll? true letters
  else none

/-- The class with case variants added where the flags ask for them. -/
def fold (flags : Flags) (chars : CharSet) : CharSet :=
  if !flags.ignoreCase then chars
  else if flags.unicode then chars.anyCase else chars.anyAsciiCase

/-- Whether a class stays inside ASCII, as it has to where Unicode is off: there the rest of a
character is bytes of an encoding, of which a class cannot take one alone. -/
def allows (flags : Flags) (chars : CharSet) : Bool :=
  flags.unicode || chars.isAscii

/-- Folds a finished class, complements it if it is negated, and checks it. -/
def finish? (flags : Flags) (negated : Bool) (chars : CharSet) : Option CharSet :=
  let folded := flags.fold chars
  let result := if negated then folded.compl else folded
  if flags.allows result then some result else none

/-- The class named by the letter of an escape. -/
def named? (flags : Flags) (letter : Char) : Option CharSet :=
  let pick (negated : Bool) (chars : CharSet) : Option CharSet :=
    let result := if negated then chars.compl else chars
    if flags.allows result then some result else none
  let digit := if flags.unicode then Category.decimalNumber.chars else asciiDigit
  let space := if flags.unicode then whiteSpace else asciiSpace
  let word := if flags.unicode then words else asciiWord
  match letter with
  | 'd' => pick false digit
  | 'D' => pick true digit
  | 's' => pick false space
  | 'S' => pick true space
  | 'w' => pick false word
  | 'W' => pick true word
  | _ => none

/-- The class of a dot. -/
def dot? (flags : Flags) : Option CharSet :=
  let excluded : CharSet :=
    if flags.dotNewline then .empty
    else if flags.crlf then classOf [('\n', '\n'), ('\r', '\r')]
    else .single '\n'
  if flags.unicode then some excluded.compl else none

def caret (flags : Flags) : Assertion :=
  if !flags.multiLine then .textStart else if flags.crlf then .crlfStart else .lineStart

def dollar (flags : Flags) : Assertion :=
  if !flags.multiLine then .textEnd else if flags.crlf then .crlfEnd else .lineEnd

end Flags

end CanonicalLR.Pattern
