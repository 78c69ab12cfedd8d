import Lexicon.Text.Blank
import Lexicon.Text.Fold
import Lexicon.Text.Property

/-! Sets of characters, kept as the expressions that describe them.

A set is never listed: membership is decided by evaluating its expression at one character.
-/

set_option autoImplicit false

namespace Lexicon

inductive CharClass where
  | space
  | word
  | digit
  deriving DecidableEq, Repr

def CharClass.contains : CharClass → Char → Bool
  | .space => Text.isBlank
  | .word => Text.isWord
  | .digit => Text.isDigit

def CharClass.codes : CharClass → Text.CodeRanges
  | .space => Text.blankCodes
  | .word => Text.wordCodes.toList
  | .digit => Text.digitCodes.toList

inductive CharSet where
  | none
  | range (first last : Char)
  | named (members : CharClass)
  | listed (property : Text.Property)
  | union (left right : CharSet)
  | inter (left right : CharSet)
  | compl (members : CharSet)
  /-- All case variants of the members. -/
  | caseless (members : CharSet)
  deriving DecidableEq, Repr, Inhabited

namespace CharSet

def contains : CharSet → Char → Bool
  | none, _ => false
  | range first last, c => first ≤ c && c ≤ last
  | named members, c => members.contains c
  | listed property, c => property.codes.contains c.toNat
  | union left right, c => left.contains c || right.contains c
  | inter left right, c => left.contains c && right.contains c
  | compl members, c => !members.contains c
  | caseless members, c =>
      members.contains c || (Text.caseVariants c).any fun variant => members.contains variant

def codes : CharSet → Text.CodeRanges
  | none => []
  | range first last => if first ≤ last then [(first.toNat, last.toNat)] else []
  | named members => members.codes
  | listed property => property.codes.toList
  | union left right => left.codes.union right.codes
  | inter left right => left.codes.inter right.codes
  | compl members => members.codes.compl
  | caseless members => members.codes.caseless

instance : Membership Char CharSet where
  mem members c := members.contains c = true

instance (c : Char) (members : CharSet) : Decidable (c ∈ members) :=
  inferInstanceAs (Decidable (members.contains c = true))

def single (c : Char) : CharSet := range c c

def diff (left right : CharSet) : CharSet := inter left (compl right)

def symmDiff (left right : CharSet) : CharSet :=
  union (diff left right) (diff right left)

def exceptNewline : CharSet := compl (single '\n')

def all : CharSet := compl none

def ofRanges : List (Char × Char) → CharSet
  | [] => none
  | [(first, last)] => range first last
  | (first, last) :: rest => union (range first last) (ofRanges rest)

theorem mem_iff {c : Char} {members : CharSet} : c ∈ members ↔ members.contains c = true :=
  Iff.rfl

@[simp] theorem not_mem_none (c : Char) : ¬ c ∈ none := by simp [mem_iff, contains]

@[simp] theorem mem_range {c first last : Char} : c ∈ range first last ↔ first ≤ c ∧ c ≤ last := by
  simp [mem_iff, contains]

@[simp] theorem mem_single {c d : Char} : c ∈ single d ↔ c = d := by
  simp only [single, mem_range]
  constructor
  · exact fun bounds => (Char.le_antisymm bounds.1 bounds.2).symm
  · rintro rfl
    exact ⟨Char.le_refl _, Char.le_refl _⟩

@[simp] theorem mem_union {c : Char} {left right : CharSet} :
    c ∈ union left right ↔ c ∈ left ∨ c ∈ right := by
  simp [mem_iff, contains]

@[simp] theorem mem_inter {c : Char} {left right : CharSet} :
    c ∈ inter left right ↔ c ∈ left ∧ c ∈ right := by
  simp [mem_iff, contains]

@[simp] theorem mem_compl {c : Char} {members : CharSet} : c ∈ compl members ↔ ¬ c ∈ members := by
  simp [mem_iff, contains]

def ascii : CharSet := range '\x00' '\x7F'

end CharSet

def CharClass.ascii : CharClass → CharSet
  | .space => .ofRanges [('\t', '\r'), (' ', ' ')]
  | .word => .ofRanges [('0', '9'), ('A', 'Z'), ('_', '_'), ('a', 'z')]
  | .digit => .range '0' '9'

/-- The bracket names for ASCII characters, as in `[:digit:]`. -/
def CharSet.ofName? (name : String) : Option CharSet :=
  match name with
  | "alnum" => some (ofRanges [('0', '9'), ('A', 'Z'), ('a', 'z')])
  | "alpha" => some (ofRanges [('A', 'Z'), ('a', 'z')])
  | "ascii" => some ascii
  | "blank" => some (ofRanges [('\t', '\t'), (' ', ' ')])
  | "cntrl" => some (ofRanges [('\x00', '\x1F'), ('\x7F', '\x7F')])
  | "digit" => some CharClass.digit.ascii
  | "graph" => some (range '!' '~')
  | "lower" => some (range 'a' 'z')
  | "print" => some (range ' ' '~')
  | "punct" => some (ofRanges [('!', '/'), (':', '@'), ('[', '\x60'), ('\x7B', '~')])
  | "space" => some CharClass.space.ascii
  | "upper" => some (range 'A' 'Z')
  | "word" => some CharClass.word.ascii
  | "xdigit" => some (ofRanges [('0', '9'), ('A', 'F'), ('a', 'f')])
  | _ => Option.none

end Lexicon
