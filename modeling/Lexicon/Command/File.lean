/-! Files as the command sees them: their names, their bytes and what can go wrong. -/

set_option autoImplicit false

namespace Lexicon.Command

inductive ReadFault where
  | absent
  | isFolder
  | notFolder
  | notText
  | other (reason : String)
  deriving DecidableEq, Repr

def ReadFault.message : ReadFault → String
  | absent => "No such file or directory (os error 2)"
  | isFolder => "Is a directory (os error 21)"
  | notFolder => "Not a directory (os error 20)"
  | notText => "stream did not contain valid UTF-8"
  | other reason => reason

def textOfBytes (content : List UInt8) : Except ReadFault String :=
  match String.fromUTF8? (ByteArray.mk content.toArray) with
  | some text => .ok text
  | none => .error .notText

/-- The last name of a path, if it is the name of something in a folder. -/
def baseName (path : String) : String :=
  match ((path.splitOn "/").filter fun name => name != "" && name != ".").getLast? with
  | none | some ".." => path
  | some name => name

end Lexicon.Command
