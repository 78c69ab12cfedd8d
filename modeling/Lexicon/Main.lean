import Lexicon.Command.Run

/-! The command: it reads a source file and prints its tokens. -/

set_option autoImplicit false

namespace Lexicon.Command

/-- The reason that an attempt to open or read a file failed. The number of the system's error
comes with either sign. -/
def ReadFault.ofError : IO.Error → ReadFault
  | .noFileOrDirectory .. => .absent
  | .inappropriateType _ code _ => if code = 20 ∨ code = -20 then .notFolder else .isFolder
  | error => .other error.toString

def readFile (path : String) : IO (Except ReadFault String) := do
  match ← (IO.FS.readBinFile path).toBaseIO with
  | .ok content => return textOfBytes content.toList
  | .error error => return .error (.ofError error)

end Lexicon.Command

open Lexicon.Command in
def main (arguments : List String) : IO UInt32 := do
  let request := Request.ofArguments arguments
  let content ← match request with
    | .scan options => readFile options.file
    | _ => pure (.error .absent)
  match answer request fun _ => content with
  | .error crash =>
      IO.eprintln crash.message
      return 101
  | .ok outcome =>
      IO.print outcome.stdout
      IO.eprint outcome.stderr
      return outcome.code
