import Lexicon.Failure
import Lexicon.Pattern.Match
import Lexicon.Pattern.Reading
import Lexicon.Token.Kind

/-! Vocabularies: ordered tables of patterns and keywords, checked and made ready for scans.

The patterns are joined to one, each as a group that has the name of its role. The order of
the table is their priority.
-/

set_option autoImplicit false

namespace Lexicon

structure Entry where
  role : Role
  pattern : String
  deriving DecidableEq, Repr

def Entry.groupText (entry : Entry) : List Char :=
  "(?P<".toList ++ entry.role.name.toList ++ '>' :: entry.pattern.toList ++ [')']

structure Keyword where
  kind : Kind
  lexeme : String
  deriving DecidableEq, Repr

structure Vocabulary where
  text : String
  matcher : Pattern
  roles : List Role
  keywords : List Keyword
  deriving DecidableEq, Repr

namespace Vocabulary

def requiredRoles : List Role := [.token .identifier, .whitespace, .anythingElse]

def missingRole? (entries : List Entry) : Option Role :=
  requiredRoles.find? fun role => !entries.any fun entry => entry.role == role

/-- The first entry whose pattern is wrong, read alone. -/
def invalidEntry? (entries : List Entry) : Option Cause :=
  entries.findSome? fun entry =>
    match Pattern.ofString entry.pattern with
    | .ok _ => none
    | .error fault => some (.invalidPattern entry.role.name fault.message)

def combinedText (entries : List Entry) : List Char :=
  ['|'].intercalate (entries.map Entry.groupText)

/-- The first pattern for identifiers, made to match whole texts only. -/
def identifierText (entries : List Entry) : List Char :=
  match entries.find? fun entry => entry.role == .token .identifier with
  | some entry => "^(?:".toList ++ entry.pattern.toList ++ ")$".toList
  | none => []

def badKeyword? (identifier : Pattern) (keywords : List Keyword) : Option Keyword :=
  keywords.find? fun keyword => !identifier.occursIn keyword.lexeme.toList

/-- Read the text of a pattern; `subject` says whose pattern it is. -/
def readPattern (subject : String) (text : List Char) : Except Cause Pattern :=
  match Pattern.ofChars text with
  | .ok pattern => .ok pattern
  | .error fault => .error (.invalidPattern subject fault.message)

theorem readPattern_eq_ok {subject : String} {text : List Char} {pattern : Pattern} :
    readPattern subject text = .ok pattern ↔ Pattern.ofChars text = .ok pattern := by
  unfold readPattern
  cases Pattern.ofChars text <;> simp

theorem readPattern_of_error {subject : String} {text : List Char} {fault : Pattern.Fault}
    (read : Pattern.ofChars text = .error fault) :
    readPattern subject text = .error (.invalidPattern subject fault.message) := by
  unfold readPattern
  rw [read]

/-- The checks are made in a fixed order and the first that fails is reported. -/
def check (entries : List Entry) (keywords : List Keyword) : Except Cause Vocabulary :=
  match missingRole? entries with
  | some role => .error (.missingPattern role.name)
  | none =>
    match invalidEntry? entries with
    | some cause => .error cause
    | none =>
      match readPattern "<combined>" (combinedText entries) with
      | .error cause => .error cause
      | .ok matcher =>
        match readPattern Kind.identifier.name (identifierText entries) with
        | .error cause => .error cause
        | .ok identifier =>
          match badKeyword? identifier keywords with
          | some keyword => .error (.keywordNotIdentifier keyword.lexeme)
          | none =>
            let text := String.ofList (combinedText entries)
            .ok ⟨text, matcher, entries.map Entry.role, keywords⟩

def ofTables (entries : List Entry) (keywords : List Keyword) : Except Failure Vocabulary :=
  (check entries keywords).mapError Failure.detached

def classify (vocabulary : Vocabulary) (found : Match) : Except Cause Role :=
  match vocabulary.roles.filter fun role => found.groups.contains role.name with
  | [role] => .ok role
  | [] => .error (.unclassifiedMatch found.text found.start)
  | roles => .error (.ambiguousMatch found.text found.start (roles.map Role.name))

/-- The kind of a word that has the form of an identifier; of two keywords with one lexeme
the later counts. -/
def resolve (vocabulary : Vocabulary) (lexeme : String) : Kind :=
  match vocabulary.keywords.reverse.find? fun keyword => keyword.lexeme == lexeme with
  | some keyword => keyword.kind
  | none => .identifier

theorem resolve_of_last {vocabulary : Vocabulary} {earlier later : List Keyword} {keyword : Keyword}
    (keywords : vocabulary.keywords = earlier ++ keyword :: later)
    (last : ∀ other ∈ later, other.lexeme ≠ keyword.lexeme) :
    vocabulary.resolve keyword.lexeme = keyword.kind := by
  have found : (vocabulary.keywords.reverse.find? fun other => other.lexeme == keyword.lexeme) =
      some keyword :=
    List.find?_eq_some_iff_append.mpr ⟨beq_self_eq_true _, later.reverse, earlier.reverse,
      by simp [keywords], by simpa using last⟩
  unfold resolve
  rw [found]

theorem resolve_of_absent {vocabulary : Vocabulary} {lexeme : String}
    (absent : ∀ keyword ∈ vocabulary.keywords, keyword.lexeme ≠ lexeme) :
    vocabulary.resolve lexeme = .identifier := by
  have none : (vocabulary.keywords.reverse.find? fun keyword => keyword.lexeme == lexeme) = none :=
    List.find?_eq_none.mpr fun keyword member => by
      simpa using absent keyword (List.mem_reverse.mp member)
  unfold resolve
  rw [none]

end Vocabulary

end Lexicon
