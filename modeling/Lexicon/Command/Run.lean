import Lexicon.Command.Arguments
import Lexicon.Command.File
import Lexicon.Diagnostic
import Lexicon.Scan

/-! What the command answers to its arguments and to the file it reads. -/

set_option autoImplicit false

namespace Lexicon.Command

structure Outcome where
  code : UInt32
  stdout : String
  stderr : String
  deriving DecidableEq, Repr

def helpText : String :=
  "Tokenize an l1 source file and list its tokens\n\n" ++
  "Usage: l1-lex [OPTIONS] <FILE>\n\n" ++
  "Arguments:\n" ++
  "  <FILE>  Source file to scan\n\n" ++
  "Options:\n" ++
  "      --count                  Print only the number of tokens\n" ++
  "      --log-level <LOG_LEVEL>  Log filter used when RUST_LOG is not set " ++
    "(e.g. \"debug\", \"lexer=trace\") [default: warn]\n" ++
  "  -h, --help                   Print help\n" ++
  "  -V, --version                Print version\n"

def versionText : String := "l1-lex 0.1.0\n"

def misuseText (misuse : Misuse) : String :=
  "error: " ++ misuse.message ++ "\n\nUsage: l1-lex [OPTIONS] <FILE>\n"

def listing (tokens : List Token) : String :=
  tokens.foldl (fun out token => out ++ token.display ++ "\n") ""

def success (options : Options) (tokens : List Token) : Outcome :=
  ⟨0, if options.countOnly then toString tokens.length ++ "\n" else listing tokens, ""⟩

/-- The answer to the outcome of a scan. Diagnostics name the file without the folders on the way
to it. -/
def report (options : Options) (source : String) :
    Except Failure (List Token) → Except Crash Outcome
  | .ok tokens => .ok (success options tokens)
  | .error failure =>
      (Diagnostic.render failure source (baseName options.file)).map fun text => ⟨1, "", text⟩

def scanSource (options : Options) (source : String) : Except Crash Outcome :=
  (tokenize source).bind (report options source)

def unreadable (options : Options) (fault : ReadFault) : Outcome :=
  ⟨2, "", "Failed to read " ++ options.file ++ ": " ++ fault.message ++ "\n"⟩

/-- The answer to the arguments, given what reading the file gives. -/
def answer (request : Request) (read : String → Except ReadFault String) :
    Except Crash Outcome :=
  match request with
  | .help => .ok ⟨0, helpText, ""⟩
  | .version => .ok ⟨0, versionText, ""⟩
  | .refused misuse => .ok ⟨2, "", misuseText misuse⟩
  | .scan options =>
      match read options.file with
      | .error fault => .ok (unreadable options fault)
      | .ok source => scanSource options source

end Lexicon.Command
