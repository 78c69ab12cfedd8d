import Lexicon.Pattern.Reading.Escape
import Lexicon.Pattern.Reading.Flags

/-! Character sets in brackets, read one character at a time.

Sets may be nested and combined: `&&` takes what two operands share, `--` what only the left
one has, `~~` what exactly one of them has. The three have the same rank and group to the left.
-/

set_option autoImplicit false

namespace Lexicon.Pattern

inductive SetOperator where
  | inter
  | diff
  | symmDiff
  deriving DecidableEq, Repr

def SetOperator.apply : SetOperator → CharSet → CharSet → CharSet
  | .inter => .inter
  | .diff => .diff
  | .symmDiff => .symmDiff

def SetOperator.char : SetOperator → Char
  | .inter => '&'
  | .diff => '-'
  | .symmDiff => '~'

def SetOperator.ofChar? (c : Char) : Option SetOperator :=
  match c with
  | '&' => some .inter
  | '-' => some .diff
  | '~' => some .symmDiff
  | _ => none

structure DeepSet where
  members : CharSet
  depth : Nat
  deriving DecidableEq, Repr

/-- The set between one pair of brackets as far as it has been read: what stands left of its
last operator, and after that the items, their number, and the depth of the deepest. -/
structure SetLevel where
  negated : Bool
  operand : Option (SetOperator × DeepSet)
  members : CharSet
  items : Nat
  deepest : Nat
  deriving DecidableEq, Repr

namespace SetLevel

def opened : SetLevel := ⟨false, none, .none, 0, 0⟩

def insert (level : SetLevel) (item : DeepSet) : SetLevel :=
  { level with
    members := if level.items = 0 then item.members else .union level.members item.members
    items := level.items + 1
    deepest := max level.deepest item.depth }

def rightmost (level : SetLevel) : DeepSet :=
  ⟨level.members, if level.items < 2 then level.deepest else level.deepest + 1⟩

def value (level : SetLevel) (flags : Flags) : DeepSet :=
  let right := level.rightmost
  match level.operand with
  | none => right
  | some (operator, left) =>
      ⟨operator.apply (flags.withCase left.members) (flags.withCase right.members),
        max left.depth right.depth + 1⟩

def operate (level : SetLevel) (flags : Flags) (operator : SetOperator) : SetLevel :=
  { opened with negated := level.negated, operand := some (operator, level.value flags) }

end SetLevel

/-- Case variants are added before the complement is taken. -/
def SetLevel.close (level : SetLevel) (flags : Flags) : Except Fault DeepSet :=
  let value := level.value flags
  let members := flags.withCase value.members
  if level.negated then
    (flags.complement members).map fun members => ⟨members, value.depth + 1⟩
  else .ok ⟨members, value.depth + 1⟩

inductive SetPlace where
  | opened
  /-- Behind the opening, where hyphens are plain; a closing bracket is plain in an empty set. -/
  | leading (bare : Bool)
  | between
  /-- Behind something that a range could start with: a character, or a class that has already
  been added and is refused as the start of a range. -/
  | behind (first : Option Char)
  /-- Behind a hyphen after that. -/
  | hyphen (first : Option Char)
  /-- Behind a hyphen and text that does not count. What the hyphen means is told by the next
  character that is no blank, and also no hash sign if that is the first one, even if it stands
  in a comment. -/
  | hyphenGap (first : Option Char) (hashed : Bool)
  /-- Where a range ends. -/
  | rangeEnd (first : Option Char)
  /-- A character that would be an operator if written twice. -/
  | doubling (operator : SetOperator)
  /-- An escape, which may end a range. -/
  | escape (escape : Escape)
  | rangeEscape (first : Option Char) (escape : Escape)
  /-- An inner opening bracket, which may start a class name. -/
  | nested
  /-- A class name behind its colon, latest letter first. -/
  | className (negated : Bool) (letters : List Char)
  /-- A class name with its second colon. -/
  | classNameEnd (negated : Bool) (letters : List Char) (members : CharSet)
  deriving DecidableEq, Repr

/-- A set under reading: the levels around the innermost one, that level and the place in it. -/
structure Bracket where
  outer : List SetLevel
  level : SetLevel
  place : SetPlace
  deriving DecidableEq, Repr

inductive BracketStep where
  | more (bracket : Bracket)
  | closed (set : DeepSet)
  deriving DecidableEq, Repr

namespace Bracket

def opened : Bracket := ⟨[], .opened, .opened⟩

def goto (bracket : Bracket) (place : SetPlace) : Bracket := { bracket with place := place }

def insert (bracket : Bracket) (members : CharSet) : Bracket :=
  { bracket with level := bracket.level.insert ⟨members, 0⟩, place := .between }

def insertFirst (bracket : Bracket) (first : Option Char) : Bracket :=
  match first with
  | none => bracket.goto .between
  | some c => bracket.insert (.single c)

def openInner (bracket : Bracket) : Bracket := ⟨bracket.level :: bracket.outer, .opened, .opened⟩

def operate (bracket : Bracket) (flags : Flags) (operator : SetOperator) : Bracket :=
  { bracket with level := bracket.level.operate flags operator, place := .between }

def close (bracket : Bracket) (flags : Flags) : Except Fault BracketStep :=
  (bracket.level.close flags).map fun set =>
    match bracket.outer with
    | [] => .closed set
    | level :: outer => .more ⟨outer, level.insert set, .between⟩

def startItem (bracket : Bracket) (flags : Flags) (c : Char) : Except Fault BracketStep :=
  match c with
  | '[' => .ok (.more (bracket.goto .nested))
  | ']' => bracket.close flags
  | '\\' => .ok (.more (bracket.goto (.escape .opened)))
  | _ =>
      match SetOperator.ofChar? c with
      | some operator => .ok (.more (bracket.goto (.doubling operator)))
      | none => .ok (.more (bracket.goto (.behind (some c))))

def stepBehind (bracket : Bracket) (flags : Flags) (first : Option Char) (c : Char) :
    Except Fault BracketStep :=
  if c = '-' then .ok (.more (bracket.goto (.hyphen first)))
  else (bracket.insertFirst first).startItem flags c

def stepLeading (bracket : Bracket) (flags : Flags) (bare : Bool) (c : Char) :
    Except Fault BracketStep :=
  if c = '-' then .ok (.more ((bracket.insert (.single '-')).goto (.leading false)))
  else if c = ']' ∧ bare then .ok (.more (bracket.insert (.single ']')))
  else bracket.startItem flags c

def stepOpened (bracket : Bracket) (flags : Flags) (c : Char) : Except Fault BracketStep :=
  if c = '^' then
    .ok (.more ⟨bracket.outer, { bracket.level with negated := true }, .leading true⟩)
  else bracket.stepLeading flags true c

def insertRange (bracket : Bracket) (first : Option Char) (last : Char) :
    Except Fault BracketStep :=
  match first with
  | none => .error .classInRange
  | some first =>
      if first ≤ last then .ok (.more (bracket.insert (.range first last)))
      else .error (.reversedRange first last)

def stepRangeEnd (bracket : Bracket) (first : Option Char) (c : Char) :
    Except Fault BracketStep :=
  if c = '\\' then .ok (.more (bracket.goto (.rangeEscape first .opened)))
  else bracket.insertRange first c

/-- Whether a hyphen before this character is no part of a range. -/
def endsHyphen (c : Char) : Bool := c == ']' || c == '-'

/-- The hyphen is a character, which could itself start a range. -/
def freeHyphen (bracket : Bracket) (first : Option Char) : Bracket :=
  (bracket.insertFirst first).goto (.behind (some '-'))

def stepHyphen (bracket : Bracket) (flags : Flags) (first : Option Char) (c : Char) :
    Except Fault BracketStep :=
  if c = '-' then .ok (.more ((bracket.insertFirst first).operate flags .diff))
  else if c = ']' then (bracket.freeHyphen first).stepBehind flags (some '-') c
  else bracket.stepRangeEnd first c

def stepHyphenGap (bracket : Bracket) (flags : Flags) (first : Option Char) (c : Char) :
    Except Fault BracketStep :=
  if endsHyphen c then (bracket.freeHyphen first).stepBehind flags (some '-') c
  else bracket.stepRangeEnd first c

/-- What looked like the name of a class is an inner set that starts with the characters
`typed`, latest first. -/
def giveUpName (bracket : Bracket) (typed : List Char) : Bracket :=
  match typed with
  | [] => bracket.openInner
  | last :: earlier =>
      (earlier.foldr (fun c inner => inner.insert (.single c)) bracket.openInner).goto
        (.behind (some last))

/-- The characters of a class name up to its last letter, latest first. -/
def typedName (negated : Bool) (letters : List Char) : List Char :=
  letters ++ if negated then ['^', ':'] else [':']

def stepGivenUp (bracket : Bracket) (flags : Flags) (typed : List Char) (c : Char) :
    Except Fault BracketStep :=
  (bracket.giveUpName typed).stepBehind flags typed.head? c

def stepClassName (bracket : Bracket) (flags : Flags) (negated : Bool) (letters : List Char)
    (c : Char) : Except Fault BracketStep :=
  if c = '^' ∧ letters = [] ∧ negated = false then
    .ok (.more (bracket.goto (.className true [])))
  else if 'a' ≤ c ∧ c ≤ 'z' then .ok (.more (bracket.goto (.className negated (c :: letters))))
  else
    match CharSet.ofName? (String.ofList letters.reverse), c with
    | some members, ':' => .ok (.more (bracket.goto (.classNameEnd negated letters members)))
    | _, _ => bracket.stepGivenUp flags (typedName negated letters) c

def stepClassNameEnd (bracket : Bracket) (flags : Flags) (negated : Bool) (letters : List Char)
    (members : CharSet) (c : Char) : Except Fault BracketStep :=
  if c = ']' then
    let members := flags.withCase members
    (if negated then flags.complement members else .ok members).map fun members =>
      .more (bracket.insert members)
  else bracket.stepGivenUp flags (':' :: typedName negated letters) c

def stepEscape (bracket : Bracket) (flags : Flags) (escape : Escape) (c : Char) :
    Except Fault BracketStep :=
  match escape.step c with
  | .error fault => .error fault
  | .ok (.more rest) => .ok (.more (bracket.goto (.escape rest)))
  | .ok (.char only) | .ok (.byte only) =>
      if flags.allows only then .ok (.more (bracket.goto (.behind (some only))))
      else .error .notAscii
  | .ok (.members kind negated) =>
      (flags.members kind negated).map fun members =>
        .more ((bracket.insert members).goto (.behind none))
  | .ok (.property members negated) =>
      (flags.property members negated).map fun members =>
        .more ((bracket.insert members).goto (.behind none))
  | .ok (.textEdge _) | .ok (.wordEdge _) | .ok .openEdge => .error .assertionInSet

def stepRangeEscape (bracket : Bracket) (flags : Flags) (first : Option Char) (escape : Escape)
    (c : Char) : Except Fault BracketStep :=
  match escape.step c with
  | .error fault => .error fault
  | .ok (.more rest) => .ok (.more (bracket.goto (.rangeEscape first rest)))
  | .ok (.char last) | .ok (.byte last) =>
      if flags.allows last then bracket.insertRange first last else .error .notAscii
  | .ok (.members _ _) | .ok (.property _ _) => .error .classInRange
  | .ok (.textEdge _) | .ok (.wordEdge _) | .ok .openEdge => .error .assertionInSet

def stepAt (bracket : Bracket) (flags : Flags) (c : Char) : Except Fault BracketStep :=
  match bracket.place with
  | .opened => bracket.stepOpened flags c
  | .leading bare => bracket.stepLeading flags bare c
  | .between => bracket.startItem flags c
  | .behind first => bracket.stepBehind flags first c
  | .hyphen first => bracket.stepHyphen flags first c
  | .hyphenGap first _ => bracket.stepHyphenGap flags first c
  | .rangeEnd first => bracket.stepRangeEnd first c
  | .doubling operator =>
      if c = operator.char then .ok (.more (bracket.operate flags operator))
      else bracket.stepBehind flags (some operator.char) c
  | .escape escape => bracket.stepEscape flags escape c
  | .rangeEscape first escape => bracket.stepRangeEscape flags first escape c
  | .nested =>
      if c = ':' then .ok (.more (bracket.goto (.className false [])))
      else bracket.openInner.stepOpened flags c
  | .className negated letters => bracket.stepClassName flags negated letters c
  | .classNameEnd negated letters members =>
      bracket.stepClassNameEnd flags negated letters members c

def step (bracket : Bracket) (flags : Flags) (c : Char) : Except Fault BracketStep :=
  if flags.allows c then bracket.stepAt flags c else .error .notAscii

/-- What a hyphen means, once a character `c` of a gap behind it has been seen. -/
def overlookGap (bracket : Bracket) (first : Option Char) (hashed : Bool) (c : Char) : Bracket :=
  if Text.isBlank c then bracket.goto (.hyphenGap first hashed)
  else if c = '#' ∧ hashed = false then bracket.goto (.hyphenGap first true)
  else if endsHyphen c then bracket.freeHyphen first
  else bracket.goto (.rangeEnd first)

/-- The set under reading behind a character that a verbose pattern does not count, if that can
stand here. -/
def overlook? (bracket : Bracket) (c : Char) : Option Bracket :=
  match bracket.place with
  | .hyphen first => some (bracket.overlookGap first false c)
  | .hyphenGap first hashed => some (bracket.overlookGap first hashed c)
  | .doubling operator => some (bracket.goto (.behind (some operator.char)))
  | .escape escape | .rangeEscape _ escape => if escape.allowsBlank then some bracket else none
  | .nested => some bracket.openInner
  | .className negated letters => some (bracket.giveUpName (typedName negated letters))
  | .classNameEnd negated letters _ =>
      some (bracket.giveUpName (':' :: typedName negated letters))
  | .opened | .leading _ | .between | .behind _ | .rangeEnd _ => some bracket

end Bracket

end Lexicon.Pattern
