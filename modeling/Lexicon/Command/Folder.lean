import Lexicon.Command.File

/-! Folders of files held in memory, and what a path finds in one. -/

set_option autoImplicit false

namespace Lexicon.Command

structure StoredFile where
  path : List String
  content : List UInt8

/-- Folders are there if a file is inside them. Of two files with one path the later counts. -/
structure Folder where
  files : List StoredFile

inductive Place where
  /-- The folder with these names on the way to it, innermost first. -/
  | folder (names : List String)
  | file (content : List UInt8)
  /-- A folder that does not belong to the ones held. -/
  | outside

namespace Folder

def file? (folder : Folder) (path : List String) : Option StoredFile :=
  folder.files.reverse.find? fun file => file.path == path

def holdsFolder (folder : Folder) (path : List String) : Bool :=
  folder.files.any fun file => path.isPrefixOf file.path && file.path != path

def enter (folder : Folder) (place : Place) (name : String) : Except ReadFault Place :=
  match place with
  | .file _ => .error .notFolder
  | .outside =>
      if name = "" ∨ name = "." ∨ name = ".." then .ok .outside else .error .absent
  | .folder names =>
      if name = "" ∨ name = "." then .ok (.folder names)
      else if name = ".." then
        match names with
        | [] => .ok .outside
        | _ :: above => .ok (.folder above)
      else
        let path := (name :: names).reverse
        match folder.file? path with
        | some file => .ok (.file file.content)
        | none => if folder.holdsFolder path then .ok (.folder (name :: names)) else .error .absent

/-- The steps of a path; a path that starts with a slash starts outside. -/
def find (folder : Folder) (path : String) : Except ReadFault Place :=
  let start := if path.startsWith "/" then Place.outside else Place.folder []
  (path.splitOn "/").foldlM folder.enter start

def read (folder : Folder) (path : String) : Except ReadFault String :=
  match folder.find path with
  | .error fault => .error fault
  | .ok (.file content) => textOfBytes content
  | .ok (.folder _) | .ok .outside => .error .isFolder

end Folder

end Lexicon.Command
