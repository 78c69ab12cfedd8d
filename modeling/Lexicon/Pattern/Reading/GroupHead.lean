import Lexicon.Pattern.Reading.Flags
import Lexicon.Text.Alphabetic
import Lexicon.Text.Numeric

/-! The heads of groups: names and flags behind an opening parenthesis. -/

set_option autoImplicit false

namespace Lexicon.Pattern

/-- A list of flags as far as it has been read, latest first; `missing` behind a hyphen. -/
structure FlagList where
  settings : List (Flag × Bool)
  negated : Bool
  missing : Bool
  deriving DecidableEq, Repr

def FlagList.start : FlagList := ⟨[], false, false⟩

def FlagList.apply (list : FlagList) (flags : Flags) : Flags :=
  list.settings.foldr (fun setting flags => flags.set setting.1 setting.2) flags

def FlagList.step (list : FlagList) (c : Char) : Except Fault FlagList :=
  if c = '-' then
    if list.negated then .error (.repeatedFlag c)
    else .ok { list with negated := true, missing := true }
  else
    match Flag.ofChar? c with
    | none => .error (.unknownFlag c)
    | some flag =>
        if flag ∈ list.settings.map Prod.fst then .error (.repeatedFlag c)
        else .ok { list with settings := (flag, !list.negated) :: list.settings, missing := false }

inductive GroupHead where
  | opened
  | question
  | questionP
  | questionAngle
  /-- A name, latest character first. -/
  | name (typed : List Char)
  | flags (list : FlagList)
  deriving DecidableEq, Repr

inductive HeadStep where
  | more (head : GroupHead)
  /-- The group has no head: the character belongs to its body. -/
  | absent
  | named (name : String)
  | unnamed (list : FlagList)
  /-- Not a group, but flags for the rest of the group around it. -/
  | setting (list : FlagList)
  deriving DecidableEq, Repr

def isNameStart (c : Char) : Bool := c == '_' || Text.isAlphabetic c

def isNamePart (c : Char) : Bool :=
  isNameStart c || Text.isNumeric c || c == '.' || c == '[' || c == ']'

def GroupHead.stepName (typed : List Char) (c : Char) : Except Fault HeadStep :=
  if c = '>' then
    if typed = [] then .error (.badGroupName "")
    else .ok (.named (String.ofList typed.reverse))
  else if (if typed = [] then isNameStart c else isNamePart c) then .ok (.more (.name (c :: typed)))
  else .error (.badGroupName (String.ofList (c :: typed).reverse))

def GroupHead.stepFlags (list : FlagList) (c : Char) : Except Fault HeadStep :=
  if c = ':' ∨ c = ')' then
    if list.missing then .error .missingFlag
    else if c = ':' then .ok (.unnamed list)
    else if list.settings = [] then .error .missingFlag
    else .ok (.setting list)
  else (list.step c).map fun list => .more (.flags list)

def GroupHead.step (head : GroupHead) (c : Char) : Except Fault HeadStep :=
  match head with
  | .opened => .ok (if c = '?' then .more .question else .absent)
  | .question =>
      match c with
      | 'P' => .ok (.more .questionP)
      | '<' => .ok (.more .questionAngle)
      | '=' | '!' => .error .lookAround
      | _ => GroupHead.stepFlags .start c
  | .questionP => if c = '<' then .ok (.more (.name [])) else .error (.unknownFlag 'P')
  | .questionAngle =>
      if c = '=' ∨ c = '!' then .error .lookAround else GroupHead.stepName [] c
  | .name typed => GroupHead.stepName typed c
  | .flags list => GroupHead.stepFlags list c

end Lexicon.Pattern
