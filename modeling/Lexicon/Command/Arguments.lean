/-! The arguments of the command line.

Options may stand before and behind the file; two hyphens end the options. The arguments are
read from left to right, so help is given only if nothing before it was wrong.
-/

set_option autoImplicit false

namespace Lexicon.Command

structure Options where
  file : String
  countOnly : Bool
  logLevel : String
  deriving DecidableEq, Repr

inductive Misuse where
  | missingFile
  | emptyFile
  | extraArgument (argument : String)
  | unknownOption (argument : String)
  | repeatedOption (name : String)
  | unwantedValue (argument : String)
  | missingValue (name : String)
  deriving DecidableEq, Repr

def Misuse.message : Misuse → String
  | missingFile => "no file is given"
  | emptyFile => "the name of the file is empty"
  | extraArgument argument => "unexpected argument " ++ argument
  | unknownOption argument => "unknown option " ++ argument
  | repeatedOption name => "the option " ++ name ++ " is given twice"
  | unwantedValue argument => "an option has a value that it does not take: " ++ argument
  | missingValue name => "the option " ++ name ++ " needs a value"

inductive Request where
  | help
  | version
  | scan (options : Options)
  | refused (misuse : Misuse)
  deriving DecidableEq, Repr

/-- What the arguments read so far have set. An option `waiting` for its value takes the next
argument that is no option. -/
structure Draft where
  file : Option String
  count : Bool
  logLevel : Option String
  waiting : Bool
  optionsEnded : Bool
  deriving DecidableEq, Repr

namespace Draft

def start : Draft := ⟨none, false, none, false, false⟩

/-- What is wrong with what has been read, once the argument behind it is no part of it. -/
def misuse? (draft : Draft) : Option Misuse :=
  if draft.waiting then some (.missingValue "--log-level")
  else if draft.file = some "" then some .emptyFile
  else none

def finish (draft : Draft) : Request :=
  match draft.misuse?, draft.file with
  | some misuse, _ => .refused misuse
  | none, none => .refused .missingFile
  | none, some file => .scan ⟨file, draft.count, draft.logLevel.getD "warn"⟩

def settle (draft : Draft) (next : Except Request Draft) : Except Request Draft :=
  match draft.misuse? with
  | some misuse => .error (.refused misuse)
  | none => next

def setLogLevel (draft : Draft) (level : String) : Except Request Draft :=
  if draft.logLevel.isSome then .error (.refused (.repeatedOption "--log-level"))
  else .ok { draft with logLevel := some level, waiting := false }

def setCount (draft : Draft) : Except Request Draft :=
  if draft.count then .error (.refused (.repeatedOption "--count"))
  else .ok { draft with count := true }

def setFile (draft : Draft) (file : String) : Except Request Draft :=
  if draft.file.isSome then .error (.refused (.extraArgument file))
  else .ok { draft with file := some file }

/-- An option that starts with two hyphens; `value` is what stands behind an equals sign. -/
def longOption (draft : Draft) (name : String) (value : Option String) : Except Request Draft :=
  match name, value with
  | "help", none => draft.settle (.error .help)
  | "version", none => draft.settle (.error .version)
  | "count", none => draft.settle draft.setCount
  | "log-level", none => draft.settle (.ok { draft with waiting := true })
  | "log-level", some level => draft.settle (draft.setLogLevel level)
  | "help", some _ | "version", some _ | "count", some _ =>
      .error (.refused (.unwantedValue ("--" ++ name)))
  | _, _ => .error (.refused (.unknownOption ("--" ++ name)))

/-- Options that start with one hyphen; the first one decides. -/
def shortOption (draft : Draft) (letters : List Char) : Except Request Draft :=
  match letters with
  | 'h' :: _ => draft.settle (.error .help)
  | 'V' :: _ => draft.settle (.error .version)
  | _ => .error (.refused (.unknownOption ("-" ++ String.ofList letters)))

def positional (draft : Draft) (argument : String) : Except Request Draft :=
  if draft.waiting ∧ ¬ draft.optionsEnded then draft.setLogLevel argument
  else draft.settle (draft.setFile argument)

def step (draft : Draft) (argument : String) : Except Request Draft :=
  if draft.optionsEnded then draft.positional argument
  else
    match argument.toList with
    | ['-', '-'] => .ok { draft with optionsEnded := true }
    | '-' :: '-' :: rest =>
        let value := match rest.dropWhile (· != '=') with
          | [] => none
          | _ :: value => some (String.ofList value)
        draft.longOption (String.ofList (rest.takeWhile (· != '='))) value
    | '-' :: letter :: letters => draft.shortOption (letter :: letters)
    | _ => draft.positional argument

end Draft

def Request.ofArguments (arguments : List String) : Request :=
  match arguments.foldlM Draft.step Draft.start with
  | .ok draft => draft.finish
  | .error request => request

end Lexicon.Command
