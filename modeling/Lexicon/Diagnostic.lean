import Lexicon.Crash
import Lexicon.Failure
import Lexicon.Source.Line
import Lexicon.Text.Blank
import Lexicon.Text.Width

/-! Diagnostics: a failure with the line of the source that it points to.

The caret stands under the character at the failure's offset, for example

    Error: UnexpectedSymbol (Unexpected symbol: `@` at line 1)
    -> sample.l1
      |
    1 | Let x := @
      | ---------^
-/

set_option autoImplicit false

namespace Lexicon.Diagnostic

def caretLimit : Nat := 65535

def isIndent (c : Char) : Bool := c == ' ' || c == '\t'

def spaces (count : Nat) : String := String.ofList (List.replicate count ' ')

def header (failure : Failure) (file : String) : String :=
  let hint := match failure.tip? with
    | none => ""
    | some tip => " (" ++ tip ++ ")"
  "Error: " ++ failure.cause.name ++ hint ++ "\n-> " ++ file ++ "\n"

/-- The column of the caret, from one: it counts the characters between the indentation of a
line and a place in it. A place inside the indentation has the first column. -/
def caretColumn (line : SourceLine) : Except Crash Nat :=
  match Text.charsBefore? line.column line.text with
  | none => .error (.splitCharacter line.column)
  | some column =>
      let caret := column - (line.text.takeWhile isIndent).length + 1
      if caretLimit < caret then .error (.caretTooFar caret) else .ok caret

def excerptText (line : SourceLine) : List Char :=
  Text.trimEnd (line.text.dropWhile isIndent)

def excerpt (line : SourceLine) : Except Crash String :=
  match caretColumn line with
  | .error crash => .error crash
  | .ok caret =>
      let number := toString line.number
      let gutter := spaces (number.length + 1) ++ "|"
      let pointer := String.ofList (List.replicate (caret - 1) '-') ++ "^"
      .ok (gutter ++ "\n" ++ number ++ " | " ++ String.ofList (excerptText line) ++ "\n" ++
        gutter ++ " " ++ pointer ++ "\n")

def line? (failure : Failure) (source : String) : Option SourceLine :=
  if failure.position.isNull then none else SourceLine.at? source.toList failure.position.offset

/-- A failure that points to no line is given with its message alone. -/
def render (failure : Failure) (source file : String) : Except Crash String :=
  match line? failure source with
  | none => .ok (header failure file ++ failure.message ++ "\n")
  | some line => (excerpt line).map (header failure file ++ ·)

end Lexicon.Diagnostic
