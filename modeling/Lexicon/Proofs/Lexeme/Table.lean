import Lexicon.Proofs.Lexeme.Extent
import Lexicon.Proofs.Pattern.Alternatives
import Lexicon.Scan

/-! The patterns of the language, read.

Main statements: every entry of the standard table is the pattern of one shape
(`standardEntries_read`), and a joined matcher prefers the first row that has a match
(`matcherOf_matchHere?`).
-/

set_option autoImplicit false

namespace Lexicon

open Pattern

/-- The union of some ranges, in the order in which brackets gather them. -/
def CharSet.gathered (first : Char × Char) (others : List (Char × Char)) : CharSet :=
  others.foldl (fun members range => .union members (.range range.1 range.2))
    (.range first.1 first.2)

namespace Vocabulary

def letters : CharSet := .gathered ('a', 'z') [('A', 'Z'), ('_', '_')]

def wordChars : CharSet := .gathered ('a', 'z') [('A', 'Z'), ('_', '_'), ('0', '9')]

def spacing : CharSet :=
  .gathered ('\t', '\t') [('\n', '\n'), ('\x0B', '\x0B'), ('\x0C', '\x0C'), ('\r', '\r'), (' ', ' '),
    ('\u00A0', '\u00A0'), ('\u1680', '\u1680'), ('\u2000', '\u200A'), ('\u2028', '\u2028'),
    ('\u2029', '\u2029'), ('\u202F', '\u202F'), ('\u205F', '\u205F'), ('\u3000', '\u3000'),
    ('\uFEFF', '\uFEFF')]

/-- One entry of the standard table, with its pattern as a shape. -/
structure Row where
  role : Role
  shape : Shape
  deriving DecidableEq, Repr

def standardRows : List Row := [
  ⟨.token .identifier, .run letters wordChars⟩,
  ⟨.token .beDefinedAs, .word ':' ['=']⟩,
  ⟨.token .leftParentheses, .word '(' []⟩,
  ⟨.token .rightParentheses, .word ')' []⟩,
  ⟨.token .leftBracket, .word '[' []⟩,
  ⟨.token .rightBracket, .word ']' []⟩,
  ⟨.token .number, .decimal⟩,
  ⟨.token .thinArrow, .word '-' ['>']⟩,
  ⟨.token .numericNegation, .word '-' []⟩,
  ⟨.token .notEquals, .word '!' ['=']⟩,
  ⟨.token .logicalNegation, .word '!' []⟩,
  ⟨.token .exponentiation, .word '*' ['*']⟩,
  ⟨.token .multipliedBy, .word '*' []⟩,
  ⟨.token .dividedBy, .word '/' []⟩,
  ⟨.token .modulus, .word '%' []⟩,
  ⟨.token .plus, .word '+' []⟩,
  ⟨.token .greaterThanEquals, .word '>' ['=']⟩,
  ⟨.token .greaterThan, .word '>' []⟩,
  ⟨.token .lessThanEquals, .word '<' ['=']⟩,
  ⟨.token .lessThan, .word '<' []⟩,
  ⟨.token .equals, .word '=' []⟩,
  ⟨.token .string, .quoted⟩,
  ⟨.token .comma, .word ',' []⟩,
  ⟨.token .colon, .word ':' []⟩,
  ⟨.token .dot, .word '.' []⟩,
  ⟨.whitespace, .block spacing⟩,
  ⟨.anythingElse, .block (.compl spacing)⟩]

theorem standardEntries_read :
    standardEntries.map (fun entry => (entry.role, (Pattern.ofString entry.pattern).toOption)) =
      standardRows.map fun row => (row.role, some row.shape.pattern) := by
  decide +kernel

theorem eq_ok_of_toOption {Error Value : Type} {result : Except Error Value} {value : Value}
    (same : result.toOption = some value) : result = .ok value := by
  cases result with
  | error error => cases same
  | ok actual => exact congrArg Except.ok (Option.some.inj same)

theorem row_of_entry {entry : Entry} (member : entry ∈ standardEntries) :
    ∃ row ∈ standardRows, row.role = entry.role ∧
      Pattern.ofString entry.pattern = .ok row.shape.pattern := by
  have read := List.mem_map_of_mem
    (f := fun entry => (entry.role, (Pattern.ofString entry.pattern).toOption)) member
  rw [standardEntries_read] at read
  obtain ⟨row, listed, same⟩ := List.mem_map.mp read
  obtain ⟨role, pattern⟩ := Prod.mk.inj same
  exact ⟨row, listed, role, eq_ok_of_toOption pattern.symm⟩

theorem entry_of_row {row : Row} (listed : row ∈ standardRows) :
    ∃ entry ∈ standardEntries, entry.role = row.role ∧
      Pattern.ofString entry.pattern = .ok row.shape.pattern := by
  have read := List.mem_map_of_mem
    (f := fun row => (row.role, some row.shape.pattern)) listed
  rw [← standardEntries_read] at read
  obtain ⟨entry, member, same⟩ := List.mem_map.mp read
  obtain ⟨role, pattern⟩ := Prod.mk.inj same
  exact ⟨entry, member, role, eq_ok_of_toOption pattern⟩

/-! ### The vocabulary -/

/-- The patterns of a table joined to one, each as a group that has the name of its role. -/
def matcherOf (rows : List Row) : Pattern :=
  .oneOf (rows.map fun row => .group row.role.name row.shape.pattern)

def ofStandardRows : Vocabulary where
  text := String.ofList (combinedText standardEntries)
  matcher := matcherOf standardRows
  roles := standardRows.map Row.role
  keywords := standardKeywords

theorem combined_read :
    (Pattern.ofChars (combinedText standardEntries)).toOption = some ofStandardRows.matcher := by
  decide +kernel

theorem keywords_read :
    ((Pattern.ofChars (identifierText standardEntries)).toOption.map fun identifier =>
      badKeyword? identifier standardKeywords) = some none := by
  decide +kernel

theorem missingRole?_standard : missingRole? standardEntries = none := by decide

theorem invalidEntry?_standard : invalidEntry? standardEntries = none := by
  unfold invalidEntry?
  rw [List.findSome?_eq_none_iff]
  intro entry member
  obtain ⟨row, _, _, read⟩ := row_of_entry member
  rw [read]

theorem roles_standard : standardEntries.map Entry.role = ofStandardRows.roles := by decide

theorem check_eq_ok {entries : List Entry} {keywords : List Keyword} {matcher identifier : Pattern}
    (complete : missingRole? entries = none) (valid : invalidEntry? entries = none)
    (combined : readPattern "<combined>" (combinedText entries) = .ok matcher)
    (whole : readPattern Kind.identifier.name (identifierText entries) = .ok identifier)
    (spelled : badKeyword? identifier keywords = none) :
    check entries keywords =
      .ok ⟨String.ofList (combinedText entries), matcher, entries.map Entry.role, keywords⟩ := by
  unfold check
  rw [complete, valid, combined, whole]
  simp only [spelled]

theorem check_standard : check standardEntries standardKeywords = .ok ofStandardRows := by
  obtain ⟨identifier, read, spelled⟩ := Option.map_eq_some_iff.mp keywords_read
  have combined : readPattern "<combined>" (combinedText standardEntries) =
      .ok ofStandardRows.matcher := by
    rw [readPattern, eq_ok_of_toOption combined_read]
  have whole : readPattern Kind.identifier.name (identifierText standardEntries) =
      .ok identifier := by
    rw [readPattern, eq_ok_of_toOption read]
  rw [check_eq_ok missingRole?_standard invalidEntry?_standard combined whole spelled,
    roles_standard]
  rfl

theorem standard_eq : standard = .ok ofStandardRows := by
  rw [standard, ofTables, check_standard]
  rfl

/-! ### The first match in the order of the table -/

def firstRow? (rows : List Row) (text : List Char) : Option (Row × Nat) :=
  rows.findSome? fun row => (row.shape.extent text).map (row, ·)

theorem matcherOf_matchHere? (rows : List Row) (before : Option Char) (text : List Char) :
    (matcherOf rows).matchHere? before text =
      (firstRow? rows text).map fun found => ⟨found.2, [found.1.role.name]⟩ := by
  rw [matcherOf, matchHere?_oneOf, List.findSome?_map, firstRow?, List.map_findSome?]
  congr 1
  funext row
  simp only [Function.comp_apply, matchHere?_group, Shape.matchHere?_eq, Option.map_map]
  rfl

end Vocabulary

theorem scan_of_standard {vocabulary : Vocabulary} (same : Vocabulary.standard = .ok vocabulary)
    (source : String) : scan source = vocabulary.scan source := by
  unfold scan
  rw [same]

end Lexicon
