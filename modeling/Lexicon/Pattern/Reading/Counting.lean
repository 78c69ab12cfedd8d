import Lexicon.Pattern.Basic
import Lexicon.Pattern.Reading.Fault
import Lexicon.Text.Blank

/-! Repetition counts in braces, as in `{2}`, `{2,}` and `{2,5}`.

Blanks around the numbers do not count.
-/

set_option autoImplicit false

namespace Lexicon.Pattern

inductive Numeral where
  | blank
  | digits (value : Nat)
  | ended (value : Nat)
  deriving DecidableEq, Repr

def Numeral.value? : Numeral → Option Nat
  | .blank => none
  | .digits value | .ended value => some value

/-- Read one more blank or digit; anything else does not belong to the number. -/
def Numeral.step? (numeral : Numeral) (c : Char) : Option Numeral :=
  if Text.isBlank c then
    match numeral.value? with
    | none => some .blank
    | some value => some (.ended value)
  else if c.isDigit then
    match numeral with
    | .blank => some (.digits (c.toNat - '0'.toNat))
    | .digits value => some (.digits (value * 10 + (c.toNat - '0'.toNat)))
    | .ended _ => none
  else none

inductive Counting where
  | least (numeral : Numeral)
  | comma (least : Nat)
  | most (least : Nat) (numeral : Numeral)
  deriving DecidableEq, Repr

inductive CountStep where
  | more (counting : Counting)
  | closed (count : Count)
  deriving DecidableEq, Repr

/-- Counts are numbers of 32 bits. -/
def countLimit : Nat := 4294967296

def checkCount (least : Nat) (most : Option Nat) : Except Fault CountStep :=
  if countLimit ≤ least then .error (.hugeCount least)
  else
    match most with
    | none => .ok (.closed ⟨least, none⟩)
    | some most =>
        if countLimit ≤ most then .error (.hugeCount most)
        else if most < least then .error (.reversedCount least most)
        else .ok (.closed ⟨least, some most⟩)

def Counting.stepMost (least : Nat) (numeral : Numeral) (c : Char) : Except Fault CountStep :=
  match numeral.step? c, numeral.value? with
  | some numeral, _ => .ok (.more (.most least numeral))
  | none, none => .error .missingCount
  | none, some value =>
      if c = '\x7D' then checkCount least (some value) else .error .unclosedCount

def Counting.stepLeast (numeral : Numeral) (c : Char) : Except Fault CountStep :=
  match numeral.step? c, numeral.value? with
  | some numeral, _ => .ok (.more (.least numeral))
  | none, none => .error .missingCount
  | none, some value =>
      if c = ',' then .ok (.more (.comma value))
      else if c = '\x7D' then checkCount value (some value)
      else .error .unclosedCount

def Counting.step (counting : Counting) (c : Char) : Except Fault CountStep :=
  match counting with
  | .least numeral => Counting.stepLeast numeral c
  | .comma value =>
      if c = '\x7D' then checkCount value none else Counting.stepMost value .blank c
  | .most value numeral => Counting.stepMost value numeral c

end Lexicon.Pattern
