import Lexicon.Source.LineTracker
import Lexicon.Token.Basic
import Lexicon.Vocabulary.Standard

/-! Scans: the tokens of a source, up to its end or to the first thing that is no token. -/

set_option autoImplicit false

namespace Lexicon

structure Scan where
  tokens : List Token
  failure : Option Failure
  deriving DecidableEq, Repr

namespace Scan

def result (scan : Scan) : Except Failure (List Token) :=
  match scan.failure with
  | none => .ok scan.tokens
  | some failure => .error failure

def abort (lines : LineTracker) (tokens : List Token) (cause : Cause) (offset : Nat) :
    Except Crash Scan :=
  match lines.advance offset with
  | .error crash => .error crash
  | .ok (line, _) => .ok ⟨tokens.reverse, some ⟨cause, ⟨offset, line⟩⟩⟩

/-- Go on with the matches that are left. White space is passed over; the tokens so far are
listed latest first. -/
def ofMatches (vocabulary : Vocabulary) (lines : LineTracker) (tokens : List Token) :
    List Match → Except Crash Scan
  | [] => .ok ⟨tokens.reverse, none⟩
  | found :: rest =>
      match vocabulary.classify found with
      | .error defect => abort lines tokens defect found.start
      | .ok .whitespace => ofMatches vocabulary lines tokens rest
      | .ok .anythingElse => abort lines tokens (.unexpectedSymbol found.text) found.start
      | .ok (.token role) =>
          match lines.advance found.start with
          | .error crash => .error crash
          | .ok (line, lines) =>
              let kind := if role = .identifier then vocabulary.resolve found.text else role
              ofMatches vocabulary lines (⟨kind, found.text, line⟩ :: tokens) rest

end Scan

/-- Text that no pattern matches is passed over. -/
def Vocabulary.scan (vocabulary : Vocabulary) (source : String) : Except Crash Scan :=
  let text := source.toList
  Scan.ofMatches vocabulary (.ofText text) [] (vocabulary.matcher.allMatches text)

def scan (source : String) : Except Crash Scan :=
  match Vocabulary.standard with
  | .ok vocabulary => vocabulary.scan source
  | .error failure => .ok ⟨[], some failure⟩

def tokenize (source : String) : Except Crash (Except Failure (List Token)) :=
  (scan source).map Scan.result

end Lexicon
