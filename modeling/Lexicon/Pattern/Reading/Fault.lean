import Lexicon.Text.Quoted

/-! What can be wrong with the text of a pattern. -/

set_option autoImplicit false

namespace Lexicon.Pattern

inductive Fault where
  | unopenedGroup
  | unclosedGroup
  | unclosedSet
  | unclosedCount
  | danglingEscape
  | unknownEscape (c : Char)
  | missingDigits
  | badDigit (c : Char)
  | badCodePoint (code : Nat)
  | nothingToRepeat
  | missingCount
  | hugeCount (count : Nat)
  | reversedCount (least most : Nat)
  | reversedRange (first last : Char)
  | classInRange
  | assertionInSet
  | lookAround
  | badGroupName (name : String)
  | repeatedGroupName (name : String)
  | unknownFlag (c : Char)
  | repeatedFlag (c : Char)
  | missingFlag
  | unknownEdge (name : String)
  | unknownProperty (name : String)
  | unclosedEdge
  | notAscii
  | tooDeep
  | tooLarge
  deriving DecidableEq, Repr

def Fault.message : Fault → String
  | .unopenedGroup => "a group is closed that was not opened"
  | .unclosedGroup => "a group is not closed"
  | .unclosedSet => "a character set is not closed"
  | .unclosedCount => "a repetition count is not closed"
  | .danglingEscape => "an escape is not finished"
  | .unknownEscape c => "unknown escape " ++ Text.quote c.toString
  | .missingDigits => "a code point has no digits"
  | .badDigit c => Text.quote c.toString ++ " is not a hexadecimal digit"
  | .badCodePoint code => toString code ++ " is not the code point of a character"
  | .nothingToRepeat => "a repetition has nothing to repeat"
  | .missingCount => "a repetition count has no number"
  | .hugeCount count => "the repetition count " ++ toString count ++ " is too large"
  | .reversedCount least most =>
      "the repetition count " ++ toString least ++ " is above " ++ toString most
  | .reversedRange first last =>
      "the range starts with " ++ Text.quote first.toString ++ ", which is above " ++
        Text.quote last.toString
  | .classInRange => "a range starts or ends with a class of characters"
  | .assertionInSet => "an assertion stands in a character set"
  | .lookAround => "a group looks around"
  | .badGroupName name => Text.quote name ++ " is not a group name"
  | .repeatedGroupName name => "the group name " ++ Text.quote name ++ " is used twice"
  | .unknownFlag c => "unknown flag " ++ Text.quote c.toString
  | .repeatedFlag c => "the flag " ++ Text.quote c.toString ++ " is given twice"
  | .missingFlag => "a flag is missing"
  | .unknownEdge name => Text.quote name ++ " is not the edge of a word"
  | .unknownProperty name => Text.quote name ++ " is not a property of characters"
  | .unclosedEdge => "the name of a word's edge is not closed"
  | .notAscii => "only ASCII characters can be read here"
  | .tooDeep => "the pattern nests too deeply"
  | .tooLarge => "the pattern is too large"

end Lexicon.Pattern
