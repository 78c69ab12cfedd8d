import Lexicon.Pattern.Piece
import Lexicon.Pattern.Reading.Bracket
import Lexicon.Pattern.Reading.Counting
import Lexicon.Pattern.Reading.GroupHead

/-! Reading a pattern from its text.

The text is read one character at a time, without looking ahead: reading a text and then a
second one is reading the two written one after the other. The state keeps the groups that
are still open, and in each of them the branches that are finished.
-/

set_option autoImplicit false

namespace Lexicon.Pattern

/-- One group under reading. `flags` are those in force where the reading stands; the finished
branches and the pieces of the current one are listed latest first; `operand` is the last
piece, which a repetition sign would repeat. -/
structure Level where
  flags : Flags
  branches : List Piece
  pieces : List Piece
  operand : Option Piece
  deriving DecidableEq, Repr

namespace Level

def opened (flags : Flags) : Level := ⟨flags, [], [], none⟩

def allPieces (level : Level) : List Piece := level.operand.toList ++ level.pieces

def push (level : Level) (piece : Piece) : Level :=
  { level with pieces := level.allPieces, operand := some piece }

def branch (level : Level) : Piece := .sequence level.allPieces.reverse

def nextBranch (level : Level) : Level :=
  ⟨level.flags, level.branch :: level.branches, [], none⟩

def whole (level : Level) : Piece := .oneOf (level.branch :: level.branches).reverse

/-- Flags are a piece that nothing can repeat. -/
def setFlags (level : Level) (list : FlagList) : Level :=
  ⟨list.apply level.flags, level.branches, .nothing :: level.allPieces, none⟩

end Level

inductive Mode where
  | items
  /-- A repetition, which a question mark makes lazy; `braced` if its count stood in braces. -/
  | repeating (body : Piece) (count : Count) (braced : Bool)
  | counting (body : Piece) (counting : Counting)
  | escape (escape : Escape)
  | edge (name : EdgeName)
  | bracket (bracket : Bracket)
  | head (head : GroupHead)
  deriving DecidableEq, Repr

/-- The state of the reading: the levels around the current group, each with the kind of the
group inside it, the current group, and the group names used so far. -/
structure Reader where
  outer : List (GroupKind × Level)
  level : Level
  names : List String
  mode : Mode
  comment : Bool
  deriving DecidableEq, Repr

namespace Reader

def start : Reader := ⟨[], .opened .start, [], .items, false⟩

def goto (reader : Reader) (mode : Mode) : Reader := { reader with mode := mode }

def push (reader : Reader) (piece : Piece) : Reader :=
  { reader with level := reader.level.push piece, mode := .items }

def pushDeep (reader : Reader) (piece : Piece) : Except Fault Reader :=
  if depthLimit < piece.depth then .error .tooDeep else .ok (reader.push piece)

def pushSet (reader : Reader) (members : CharSet) : Reader := reader.push (.ofSet members 0)

def pushChar (reader : Reader) (c : Char) : Reader :=
  let flags := reader.level.flags
  if flags.ignoreCase ∧ flags.allows c then reader.pushSet (flags.withCase (.single c))
  else reader.push (.ofChar c)

def pushAssertion (reader : Reader) (assertion : Assertion) : Reader :=
  reader.push (.ofAssertion assertion)

def pushEdge (reader : Reader) (edge : WordEdge) : Reader :=
  reader.pushAssertion (reader.level.flags.wordEdge edge)

def pushRepeated (reader : Reader) (body : Piece) (count : Count) (greedy : Bool) :
    Except Fault Reader :=
  reader.pushDeep (body.repeated count (greedy != reader.level.flags.swapGreed))

def takeOperand (reader : Reader) (mode : Piece → Mode) : Except Fault Reader :=
  match reader.level.operand with
  | none => .error .nothingToRepeat
  | some body =>
      .ok { reader with level := { reader.level with operand := none }, mode := mode body }

def startCounting (reader : Reader) : Except Fault Reader :=
  reader.takeOperand fun body => .counting body (.least .blank)

def openGroup (reader : Reader) (kind : GroupKind) (flags : Flags) : Reader :=
  { reader with
    outer := (kind, reader.level) :: reader.outer
    level := .opened flags
    mode := .items }

def openNamed (reader : Reader) (name : String) : Except Fault Reader :=
  if name ∈ reader.names then .error (.repeatedGroupName name)
  else
    .ok ({ reader with names := name :: reader.names }.openGroup (.named name) reader.level.flags)

def closeGroup (reader : Reader) : Except Fault Reader :=
  match reader.outer with
  | [] => .error .unopenedGroup
  | (kind, level) :: outer =>
      { reader with outer := outer, level := level }.pushDeep (.group kind reader.level.whole)

def startItem (reader : Reader) (c : Char) : Except Fault Reader :=
  match c with
  | '(' => .ok (reader.goto (.head .opened))
  | ')' => reader.closeGroup
  | '|' => .ok { reader with level := reader.level.nextBranch, mode := .items }
  | '[' => .ok (reader.goto (.bracket .opened))
  | '\\' => .ok (reader.goto (.escape .opened))
  | '?' => reader.takeOperand fun body => .repeating body .optional false
  | '*' => reader.takeOperand fun body => .repeating body .any false
  | '+' => reader.takeOperand fun body => .repeating body .oneOrMore false
  | '\x7B' => reader.startCounting
  | '.' => reader.level.flags.dot.map reader.pushSet
  | '^' => .ok (reader.pushAssertion reader.level.flags.lineStart)
  | '$' => .ok (reader.pushAssertion reader.level.flags.lineEnd)
  | _ => .ok (reader.pushChar c)

def stepHead (reader : Reader) (head : GroupHead) (c : Char) : Except Fault Reader :=
  let flags := reader.level.flags
  match head.step c with
  | .error fault => .error fault
  | .ok (.more head) => .ok (reader.goto (.head head))
  | .ok .absent => (reader.openGroup .marked flags).startItem c
  | .ok (.named name) => reader.openNamed name
  | .ok (.unnamed list) => .ok (reader.openGroup .plain (list.apply flags))
  | .ok (.setting list) => .ok { reader with level := reader.level.setFlags list, mode := .items }

def stepEscape (reader : Reader) (escape : Escape) (c : Char) : Except Fault Reader :=
  let flags := reader.level.flags
  match escape.step c with
  | .error fault => .error fault
  | .ok (.more escape) => .ok (reader.goto (.escape escape))
  | .ok (.char d) => .ok (reader.pushChar d)
  | .ok (.byte d) => if flags.allows d then .ok (reader.pushChar d) else .error .notAscii
  | .ok (.members kind negated) => (flags.members kind negated).map reader.pushSet
  | .ok (.property members negated) => (flags.property members negated).map reader.pushSet
  | .ok (.textEdge assertion) => .ok (reader.pushAssertion assertion)
  | .ok (.wordEdge edge) => .ok (reader.pushEdge edge)
  | .ok .openEdge => .ok (reader.goto (.edge .bare))

def stepBracket (reader : Reader) (bracket : Bracket) (c : Char) : Except Fault Reader :=
  match bracket.step reader.level.flags c with
  | .error fault => .error fault
  | .ok (.more bracket) => .ok (reader.goto (.bracket bracket))
  | .ok (.closed inner) => reader.pushDeep (.ofSet inner.members inner.depth)

def stepCounting (reader : Reader) (body : Piece) (counting : Counting) (c : Char) :
    Except Fault Reader :=
  match counting.step c with
  | .error fault => .error fault
  | .ok (.more counting) => .ok (reader.goto (.counting body counting))
  | .ok (.closed count) => .ok (reader.goto (.repeating body count true))

/-- Read a character where a repetition or a new piece starts; `braced` behind an opening
brace. -/
def startCountOrItem (reader : Reader) (braced : Bool) (c : Char) : Except Fault Reader :=
  if braced then
    reader.startCounting.bind fun reader =>
      match reader.mode with
      | .counting body counting => reader.stepCounting body counting c
      | _ => .error .nothingToRepeat
  else reader.startItem c

def stepEdge (reader : Reader) (name : EdgeName) (c : Char) : Except Fault Reader :=
  match name.step c with
  | .error fault => .error fault
  | .ok (.more name) => .ok (reader.goto (.edge name))
  | .ok (.closed edge) => .ok (reader.pushEdge edge)
  | .ok (.absent braced) => (reader.pushEdge .atEdge).startCountOrItem braced c

def take (reader : Reader) (c : Char) : Except Fault Reader :=
  match reader.mode with
  | .items => reader.startItem c
  | .repeating body count _ =>
      if c = '?' then reader.pushRepeated body count false
      else (reader.pushRepeated body count true).bind fun reader => reader.startItem c
  | .counting body counting => reader.stepCounting body counting c
  | .escape escape => reader.stepEscape escape c
  | .edge name => reader.stepEdge name c
  | .bracket bracket => reader.stepBracket bracket c
  | .head head => reader.stepHead head c

/-- The reader behind a character that a verbose pattern does not count, if that can stand
here. -/
def overlook? (reader : Reader) (c : Char) : Except Fault (Option Reader) :=
  match reader.mode with
  | .items | .counting _ _ | .head .opened => .ok (some reader)
  | .repeating body count braced =>
      if braced then .ok (some reader)
      else (reader.pushRepeated body count true).map some
  | .escape escape => .ok (if escape.allowsBlank then some reader else none)
  | .edge .bare => .ok (some (reader.pushEdge .atEdge))
  | .edge _ => .ok (some reader)
  | .bracket bracket =>
      .ok ((bracket.overlook? c).map fun bracket => reader.goto (.bracket bracket))
  | .head _ => .ok none

/-- Read one more character. In a verbose pattern blanks do not count, nor do comments, which
reach from a hash sign to the end of the line. -/
def step (reader : Reader) (c : Char) : Except Fault Reader :=
  if reader.comment ∨ reader.level.flags.verbose ∧ (Text.isBlank c ∨ c = '#') then
    (reader.overlook? c).bind fun overlooked =>
      match overlooked with
      | some next => .ok { next with comment := if reader.comment then c != '\n' else c == '#' }
      | none => reader.take c
  else reader.take c

def ended (reader : Reader) : Except Fault Piece :=
  match reader.outer with
  | [] => .ok reader.level.whole
  | _ :: _ => .error .unclosedGroup

def finish (reader : Reader) : Except Fault Piece :=
  match reader.mode with
  | .items => reader.ended
  | .repeating body count _ => (reader.pushRepeated body count true).bind ended
  | .counting _ _ => .error .unclosedCount
  | .escape _ => .error .danglingEscape
  | .edge .bare => (reader.pushEdge .atEdge).ended
  | .edge _ => .error .unclosedEdge
  | .bracket _ => .error .unclosedSet
  | .head _ => .error .unclosedGroup

end Reader

def Piece.admit (piece : Piece) : Except Fault Pattern :=
  if depthLimit < piece.depth then .error .tooDeep
  else if piece.plan.fits then .ok piece.pattern
  else .error .tooLarge

def ofChars (text : List Char) : Except Fault Pattern := do
  let reader ← text.foldlM Reader.step Reader.start
  let piece ← reader.finish
  piece.admit

def ofString (text : String) : Except Fault Pattern := ofChars text.toList

end Lexicon.Pattern
