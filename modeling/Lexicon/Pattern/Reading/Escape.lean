import Lexicon.Pattern.Basic
import Lexicon.Pattern.PropertyName
import Lexicon.Pattern.Reading.Fault

/-! Escapes: what a backslash and the characters after it stand for. -/

set_option autoImplicit false

namespace Lexicon.Pattern

inductive Escape where
  | opened
  /-- The number of digits that a code point has without braces. -/
  | code (digits : Nat)
  /-- The digits in all, those still to come, and the value so far. -/
  | fixedCode (digits left value : Nat)
  /-- Whether a digit has been read, and the value so far. -/
  | bracedCode (started : Bool) (value : Nat)
  /-- The sign of a property, or of its absence if negated. -/
  | property (negated : Bool)
  /-- A property in braces, latest character first. -/
  | propertyName (negated : Bool) (typed : List Char)
  deriving DecidableEq, Repr

inductive Escaped where
  | more (rest : Escape)
  | char (c : Char)
  /-- A character by the two digits of a byte. -/
  | byte (c : Char)
  | members (kind : CharClass) (negated : Bool)
  | property (members : CharSet) (negated : Bool)
  | textEdge (assertion : Assertion)
  | wordEdge (edge : WordEdge)
  /-- A word edge that a name in braces may follow. -/
  | openEdge
  deriving DecidableEq, Repr

def hexDigit? (c : Char) : Option Nat :=
  if '0' ≤ c ∧ c ≤ '9' then some (c.toNat - '0'.toNat)
  else if 'a' ≤ c ∧ c ≤ 'f' then some (c.toNat - 'a'.toNat + 10)
  else if 'A' ≤ c ∧ c ≤ 'F' then some (c.toNat - 'A'.toNat + 10)
  else none

def charOfCode (code : Nat) : Except Fault Char :=
  if code.isValidChar then .ok (Char.ofNat code) else .error (.badCodePoint code)

/-- An ASCII character that is no letter, digit or angle bracket stands for itself. -/
def escapesItself (c : Char) : Bool :=
  c.toNat < 0x80 && !c.isAlphanum && c != '<' && c != '>'

def propertyOf (negated : Bool) (name : List Char) : Except Fault Escaped :=
  match PropertyName.members? name with
  | some members => .ok (.property members negated)
  | none => .error (.unknownProperty (String.ofList name))

def Escape.first (c : Char) : Except Fault Escaped :=
  match c with
  | 'x' => .ok (.more (.code 2))
  | 'u' => .ok (.more (.code 4))
  | 'U' => .ok (.more (.code 8))
  | 'd' => .ok (.members .digit false)
  | 's' => .ok (.members .space false)
  | 'w' => .ok (.members .word false)
  | 'D' => .ok (.members .digit true)
  | 'S' => .ok (.members .space true)
  | 'W' => .ok (.members .word true)
  | 'p' => .ok (.more (.property false))
  | 'P' => .ok (.more (.property true))
  | 'a' => .ok (.char '\x07')
  | 'f' => .ok (.char '\x0C')
  | 't' => .ok (.char '\t')
  | 'n' => .ok (.char '\n')
  | 'r' => .ok (.char '\r')
  | 'v' => .ok (.char '\x0B')
  | 'A' => .ok (.textEdge .textStart)
  | 'z' => .ok (.textEdge .textEnd)
  | 'b' => .ok .openEdge
  | 'B' => .ok (.wordEdge .notAtEdge)
  | '<' => .ok (.wordEdge .start)
  | '>' => .ok (.wordEdge .stop)
  | _ => if escapesItself c then .ok (.char c) else .error (.unknownEscape c)

def Escape.step (escape : Escape) (c : Char) : Except Fault Escaped :=
  match escape with
  | .opened => Escape.first c
  | .code digits =>
      if c = '\x7B' then .ok (.more (.bracedCode false 0))
      else
        match hexDigit? c with
        | none => .error (.badDigit c)
        | some digit => .ok (.more (.fixedCode digits (digits - 1) digit))
  | .fixedCode digits left value =>
      match hexDigit? c with
      | none => .error (.badDigit c)
      | some digit =>
          let code := value * 16 + digit
          if 1 < left then .ok (.more (.fixedCode digits (left - 1) code))
          else (charOfCode code).map (if digits = 2 then .byte else .char)
  | .bracedCode started value =>
      if c = '\x7D' then
        if started then (charOfCode value).map .char else .error .missingDigits
      else
        match hexDigit? c with
        | none => .error (.badDigit c)
        | some digit => .ok (.more (.bracedCode true (value * 16 + digit)))
  | .property negated =>
      if c = '\x7B' then .ok (.more (.propertyName negated [])) else propertyOf negated [c]
  | .propertyName negated typed =>
      if c = '\x7D' then propertyOf negated typed.reverse
      else .ok (.more (.propertyName negated (c :: typed)))

/-- Whether a verbose pattern may have blanks here. -/
def Escape.allowsBlank : Escape → Bool
  | .opened => false
  | _ => true

/-- How much has been read of the edge of a word, as in `\b` and in `\b{start}`. -/
inductive EdgeName where
  | bare
  | braced
  /-- Latest letter first. -/
  | named (letters : List Char)
  deriving DecidableEq, Repr

def isEdgeLetter (c : Char) : Bool := c.isAlpha || c == '-'

def wordEdgeOfName (name : String) : Except Fault WordEdge :=
  match name with
  | "start" => .ok .start
  | "end" => .ok .stop
  | "start-half" => .ok .startHalf
  | "end-half" => .ok .stopHalf
  | _ => .error (.unknownEdge name)

inductive EdgeStep where
  | more (name : EdgeName)
  | closed (edge : WordEdge)
  /-- There is no name: what has been read is an edge, an opening brace if `braced`, and the
  character. -/
  | absent (braced : Bool)
  deriving DecidableEq, Repr

def EdgeName.step (name : EdgeName) (c : Char) : Except Fault EdgeStep :=
  match name with
  | .bare => .ok (if c = '\x7B' then .more .braced else .absent false)
  | .braced => .ok (if isEdgeLetter c then .more (.named [c]) else .absent true)
  | .named letters =>
      if isEdgeLetter c then .ok (.more (.named (c :: letters)))
      else if c = '\x7D' then (wordEdgeOfName (String.ofList letters.reverse)).map .closed
      else .error .unclosedEdge

end Lexicon.Pattern
