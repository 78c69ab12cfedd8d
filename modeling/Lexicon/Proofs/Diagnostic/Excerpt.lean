import Lexicon.Diagnostic
import Lexicon.Proofs.Source.Line
import Mathlib.Data.List.DropRight

/-! Diagnostics line by line.

An excerpt is three lines: the gutter, the line of the source without its indentation, and the
caret. Main statements: a diagnostic that points to a line ends with these (`render_written`), and
if the line is cut at the place of the failure, the caret stands behind as many characters as the
part before the cut has behind the indentation (`caretColumn_of_cut`, `excerptText_of_cut`).
-/

set_option autoImplicit false

namespace Lexicon

open Text

/-! ### White space at the end of a text -/

namespace Text

variable {text front back : List Char}

theorem trimEnd_eq (text : List Char) : trimEnd text = text.rdropWhile isBlank := rfl

theorem trimEnd_begins (text : List Char) : trimEnd text <+: text :=
  List.rdropWhile_prefix isBlank text

theorem trimEnd_append_of_blank (front : List Char) (blank : back.all isBlank = true) :
    trimEnd (front ++ back) = trimEnd front := by
  have reversed : ∀ c ∈ back.reverse, isBlank c = true :=
    fun c member => List.all_eq_true.mp blank c (List.mem_reverse.mp member)
  rw [trimEnd, List.reverse_append, List.dropWhile_append_of_pos reversed, trimEnd]

theorem trimEnd_append_of_solid (front : List Char) (solid : ¬ back.all isBlank = true) :
    trimEnd (front ++ back) = front ++ trimEnd back := by
  have kept : (back.reverse.dropWhile isBlank).isEmpty = false := by
    rw [List.isEmpty_eq_false_iff, ne_eq, List.dropWhile_eq_nil_iff]
    simpa using solid
  rw [trimEnd, List.reverse_append, List.dropWhile_append, kept, if_neg Bool.false_ne_true,
    List.reverse_append, List.reverse_reverse, trimEnd]

theorem trimEnd_cons_of_solid {c : Char} {rest : List Char}
    (solid : ¬ (c :: rest).all isBlank = true) :
    ∃ more, trimEnd (c :: rest) = c :: more := by
  have kept : trimEnd (c :: rest) ≠ [] := fun empty => solid (List.all_eq_true.mpr
    (List.rdropWhile_eq_nil_iff.mp ((trimEnd_eq _).symm.trans empty)))
  obtain ⟨d, more, split⟩ := List.exists_cons_of_ne_nil kept
  have begins := trimEnd_begins (c :: rest)
  rw [split, List.cons_prefix_cons] at begins
  exact ⟨more, begins.1 ▸ split⟩

end Text

namespace Diagnostic

/-! ### Lines -/

/-- Lines as a text: each has a newline behind it. -/
def written (lines : List (List Char)) : List Char := lines.flatMap (· ++ ['\n'])

def gutter (number : Nat) : List Char :=
  List.replicate ((toString number).length + 1) ' ' ++ ['|']

def numbered (number : Nat) (shown : List Char) : List Char :=
  (toString number).toList ++ ([' ', '|', ' '] ++ shown)

def caretLine (number caret : Nat) : List Char :=
  gutter number ++ (' ' :: (List.replicate (caret - 1) '-' ++ ['^']))

def headline (failure : Failure) : List Char :=
  let hint := match failure.tip? with
    | none => ""
    | some tip => " (" ++ tip ++ ")"
  ("Error: " ++ failure.cause.name ++ hint).toList

def linesAt (failure : Failure) (file : String) (line : SourceLine) (caret : Nat) :
    List (List Char) :=
  [headline failure, '-' :: '>' :: ' ' :: file.toList, gutter line.number,
    numbered line.number (excerptText line), caretLine line.number caret]

section Render

variable {line : SourceLine} {failure : Failure} {source : String} {caret : Nat}

theorem header_written (failure : Failure) (file : String) :
    (header failure file).toList =
      written [headline failure, '-' :: '>' :: ' ' :: file.toList] := by
  unfold header headline
  cases failure.tip? <;> simp [written]

theorem excerpt_written (aligned : caretColumn line = .ok caret) :
    ∃ text, excerpt line = .ok text ∧ text.toList = written [gutter line.number,
      numbered line.number (excerptText line), caretLine line.number caret] := by
  unfold excerpt
  rw [aligned]
  refine ⟨_, rfl, ?_⟩
  simp [written, gutter, numbered, caretLine, spaces]

theorem render_written (file : String) (found : line? failure source = some line)
    (aligned : caretColumn line = .ok caret) :
    ∃ text, render failure source file = .ok text ∧
      text.toList = written (linesAt failure file line caret) := by
  obtain ⟨shown, outcome, lines⟩ := excerpt_written aligned
  refine ⟨header failure file ++ shown, ?_, ?_⟩
  · rw [render, found]
    exact congrArg (Except.map (header failure file ++ ·)) outcome
  · rw [String.toList_append, header_written, lines]
    exact List.flatMap_append.symm

theorem render_crash {file : String} {crash : Crash}
    (found : line? failure source = some line) (crashes : caretColumn line = .error crash) :
    render failure source file = .error crash := by
  rw [render, found]
  dsimp only
  rw [excerpt, crashes]
  rfl

end Render

/-! ### The caret -/

section Cut

variable {line : SourceLine} {lead rest : List Char} {c : Char}

theorem caretColumn_of_cut {tail : List Char} (text : line.text = lead ++ tail)
    (place : width lead = line.column) :
    caretColumn line =
      let caret := lead.length - (line.text.takeWhile isIndent).length + 1
      if caretLimit < caret then .error (.caretTooFar caret) else .ok caret := by
  have cut : charsBefore? line.column line.text = some lead.length := by
    rw [text, ← place, charsBefore?_width]
  unfold caretColumn
  rw [cut]

section Places

variable {tail : List Char} {failure : Failure} {source : String}

theorem render_of_near (file : String) (found : line? failure source = some line)
    (text : line.text = lead ++ tail) (place : width lead = line.column)
    (near : lead.length - (line.text.takeWhile isIndent).length + 1 ≤ caretLimit) :
    ∃ text, render failure source file = .ok text ∧ text.toList =
      written (linesAt failure file line
        (lead.length - (line.text.takeWhile isIndent).length + 1)) := by
  have aligned := caretColumn_of_cut text place
  rw [if_neg (Nat.not_lt.mpr near)] at aligned
  exact render_written file found aligned

theorem render_of_far (file : String) (found : line? failure source = some line)
    (text : line.text = lead ++ tail) (place : width lead = line.column)
    (far : caretLimit < lead.length - (line.text.takeWhile isIndent).length + 1) :
    render failure source file =
      .error (.caretTooFar (lead.length - (line.text.takeWhile isIndent).length + 1)) := by
  have aligned := caretColumn_of_cut text place
  rw [if_pos far] at aligned
  exact render_crash found aligned

theorem render_of_inside (file : String) (found : line? failure source = some line)
    (inside : ¬ Border line.text line.column) :
    render failure source file = .error (.splitCharacter line.column) := by
  refine render_crash found ?_
  rw [caretColumn, charsBefore?_eq_none_iff.mpr inside]

end Places

theorem length_lead (text : line.text = lead ++ c :: rest) (solid : isIndent c = false) :
    lead.length - (line.text.takeWhile isIndent).length = (lead.dropWhile isIndent).length := by
  have whole : (lead.takeWhile isIndent).length + (lead.dropWhile isIndent).length =
      lead.length := by
    rw [← List.length_append, List.takeWhile_append_dropWhile]
  have own : line.text.takeWhile isIndent = lead.takeWhile isIndent := by
    rw [text, List.takeWhile_append, List.takeWhile_cons_of_neg (by simp [solid]), List.append_nil]
    by_cases all : (lead.takeWhile isIndent).length = lead.length
    · rw [if_pos all, (List.takeWhile_prefix isIndent).eq_of_length all]
    · rw [if_neg all]
  rw [own]
  omega

theorem dropWhile_lead (text : line.text = lead ++ c :: rest) (solid : isIndent c = false) :
    line.text.dropWhile isIndent = lead.dropWhile isIndent ++ c :: rest := by
  rw [text, List.dropWhile_append, List.dropWhile_cons_of_neg (by simp [solid])]
  by_cases empty : (lead.dropWhile isIndent).isEmpty = true
  · rw [if_pos empty, List.isEmpty_iff.mp empty, List.nil_append]
  · rw [if_neg empty]

theorem excerptText_of_cut (text : line.text = lead ++ c :: rest) (solid : isIndent c = false) :
    if (c :: rest).all isBlank = true then
      excerptText line = trimEnd (lead.dropWhile isIndent)
    else ∃ more, excerptText line = lead.dropWhile isIndent ++ c :: more := by
  have shown : excerptText line = trimEnd (lead.dropWhile isIndent ++ c :: rest) := by
    rw [excerptText, dropWhile_lead text solid]
  by_cases blank : (c :: rest).all isBlank = true
  · rw [if_pos blank, shown, trimEnd_append_of_blank _ blank]
  · rw [if_neg blank, shown, trimEnd_append_of_solid _ blank]
    obtain ⟨more, kept⟩ := trimEnd_cons_of_solid blank
    exact ⟨more, by rw [kept]⟩

end Cut

end Diagnostic

end Lexicon
