import Lexicon.Pattern.Basic
import Lexicon.Pattern.Reading.Fault

/-! Flags: switches that change what the constructs of a pattern mean. -/

set_option autoImplicit false

namespace Lexicon.Pattern

inductive Flag where
  | ignoreCase
  | multiLine
  | dotAll
  | swapGreed
  | verbose
  | returns
  | unicode
  deriving DecidableEq, Repr

def Flag.ofChar? (c : Char) : Option Flag :=
  match c with
  | 'i' => some .ignoreCase
  | 'm' => some .multiLine
  | 's' => some .dotAll
  | 'U' => some .swapGreed
  | 'x' => some .verbose
  | 'R' => some .returns
  | 'u' => some .unicode
  | _ => none

/-- The flags in force. With `returns`, lines also end with a carriage return. Without `unicode`,
the classes of characters and their case variants are those of ASCII. -/
structure Flags where
  ignoreCase : Bool
  multiLine : Bool
  dotAll : Bool
  swapGreed : Bool
  verbose : Bool
  returns : Bool
  unicode : Bool
  deriving DecidableEq, Repr

namespace Flags

def start : Flags := ⟨false, false, false, false, false, false, true⟩

def set (flags : Flags) (flag : Flag) (value : Bool) : Flags :=
  match flag with
  | .ignoreCase => { flags with ignoreCase := value }
  | .multiLine => { flags with multiLine := value }
  | .dotAll => { flags with dotAll := value }
  | .swapGreed => { flags with swapGreed := value }
  | .verbose => { flags with verbose := value }
  | .returns => { flags with returns := value }
  | .unicode => { flags with unicode := value }

def withCase (flags : Flags) (members : CharSet) : CharSet :=
  if flags.ignoreCase then
    if flags.unicode then .caseless members else .inter (.caseless members) .ascii
  else members

def allows (flags : Flags) (c : Char) : Bool := flags.unicode || c.toNat < 0x80

/-- Where only ASCII is read, there are no complements. -/
def complement (flags : Flags) (members : CharSet) : Except Fault CharSet :=
  if flags.unicode then .ok (.compl members) else .error .notAscii

def members (flags : Flags) (kind : CharClass) (negated : Bool) : Except Fault CharSet :=
  let members := if flags.unicode then .named kind else kind.ascii
  if negated then flags.complement members else .ok members

/-- The characters that have a property, or those that do not. No property is one of ASCII. -/
def property (flags : Flags) (members : CharSet) (negated : Bool) : Except Fault CharSet :=
  let members := flags.withCase members
  if !flags.unicode then .error .notAscii
  else .ok (if negated then .compl members else members)

def dot (flags : Flags) : Except Fault CharSet :=
  if flags.unicode then
    .ok (if flags.dotAll then .all
      else if flags.returns then .compl (.union (.single '\n') (.single '\r'))
      else .exceptNewline)
  else .error .notAscii

def lineStart (flags : Flags) : Assertion :=
  if flags.multiLine then .lineStart flags.returns else .textStart

def lineEnd (flags : Flags) : Assertion :=
  if flags.multiLine then .lineEnd flags.returns else .textEnd

def wordEdge (flags : Flags) (edge : WordEdge) : Assertion :=
  .word edge (if flags.unicode then .named .word else CharClass.word.ascii)

end Flags

end Lexicon.Pattern
