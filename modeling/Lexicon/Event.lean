import Lexicon.Scan

/-! What a scan reports while it goes on. -/

set_option autoImplicit false

namespace Lexicon

/-- A scan is aborted by a text that is not expected, which is reported with its line, or by a match
that the vocabulary gives no single role. This is a defect and reported with its offset. -/
inductive Event where
  | started (bytes : Nat)
  | token (token : Token)
  | finished (tokens : Nat)
  | aborted (failure : Failure)
  deriving DecidableEq, Repr

namespace Event

def level : Event → String
  | started _ | finished _ => "DEBUG"
  | token _ => "TRACE"
  | aborted failure => if failure.cause.isLexical then "WARN" else "ERROR"

def message : Event → String
  | started _ => "scan started"
  | token _ => "token"
  | finished _ => "scan finished"
  | aborted failure =>
      if failure.cause.isLexical then "scan aborted: " ++ failure.message
      else "token vocabulary defect: " ++ failure.cause.message

end Event

/-- The tokens are reported as they are found, also those before a failure. -/
def Scan.events (scan : Scan) (source : String) : List Event :=
  let last := match scan.failure with
    | none => Event.finished scan.tokens.length
    | some failure => Event.aborted failure
  .started source.utf8ByteSize :: (scan.tokens.map Event.token ++ [last])

end Lexicon
