import Lexicon.Text.Quoted

/-! Failures of a scan and defects of a vocabulary, with their wording. -/

set_option autoImplicit false

namespace Lexicon

/-- A place in a source: a byte offset and its line, from one. -/
structure Position where
  offset : Nat
  line : Nat
  deriving DecidableEq, Repr

/-- Line zero stands for no place in any source. -/
def Position.isNull (position : Position) : Bool := position.line == 0

def Position.null : Position := ⟨0, 0⟩

inductive Cause where
  | unexpectedSymbol (text : String)
  | unclassifiedMatch (text : String) (offset : Nat)
  | ambiguousMatch (text : String) (offset : Nat) (kinds : List String)
  | invalidPattern (kind reason : String)
  | missingPattern (kind : String)
  | keywordNotIdentifier (lexeme : String)
  deriving DecidableEq, Repr

namespace Cause

def name : Cause → String
  | unexpectedSymbol _ => "UnexpectedSymbol"
  | unclassifiedMatch _ _ => "UnclassifiedMatch"
  | ambiguousMatch _ _ _ => "AmbiguousMatch"
  | invalidPattern _ _ => "InvalidPattern"
  | missingPattern _ => "MissingPattern"
  | keywordNotIdentifier _ => "KeywordNotIdentifier"

def message : Cause → String
  | unexpectedSymbol text => "unexpected symbol: " ++ Text.quote text
  | unclassifiedMatch text offset =>
      "match " ++ Text.quote text ++ " at offset " ++ toString offset ++ " has no token kind"
  | ambiguousMatch text offset kinds =>
      "match " ++ Text.quote text ++ " at offset " ++ toString offset ++
        " has several token kinds: " ++ Text.quoteList kinds
  | invalidPattern kind reason => "invalid pattern for " ++ kind ++ ": " ++ reason
  | missingPattern kind => "vocabulary has no " ++ kind ++ " pattern"
  | keywordNotIdentifier lexeme =>
      "keyword " ++ Text.quote lexeme ++ " does not match the identifier pattern"

/-- Only an unexpected symbol is a fault of the source; all else is a defect of the vocabulary. -/
def isLexical : Cause → Bool
  | unexpectedSymbol _ => true
  | _ => false

def className (cause : Cause) : String := if cause.isLexical then "Lexical" else "Internal"

end Cause

structure Failure where
  cause : Cause
  position : Position
  deriving DecidableEq, Repr

namespace Failure

def detached (cause : Cause) : Failure := ⟨cause, .null⟩

def message (failure : Failure) : String :=
  if failure.position.isNull then failure.cause.message
  else "line " ++ toString failure.position.line ++ ": " ++ failure.cause.message

def tip? (failure : Failure) : Option String :=
  match failure.cause with
  | .unexpectedSymbol text =>
      some ("Unexpected symbol: `" ++ text ++ "` at line " ++ toString failure.position.line)
  | .unclassifiedMatch _ _ =>
      some "A match was produced by no token pattern, check the vocabulary"
  | .ambiguousMatch _ _ kinds =>
      some ("Patterns " ++ ", ".intercalate kinds ++ " overlap, only one may match")
  | .invalidPattern _ _ => none
  | .missingPattern kind => some ("Add a pattern for `" ++ kind ++ "` to the vocabulary")
  | .keywordNotIdentifier lexeme =>
      some ("Keyword `" ++ lexeme ++ "` must be spelled like an identifier")

end Failure

end Lexicon
