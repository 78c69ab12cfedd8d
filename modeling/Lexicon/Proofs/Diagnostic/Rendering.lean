import Lexicon.Proofs.Diagnostic.Caret

/-! Diagnostics of any failure.

A failure need not come from a scan: its place may be inside a character, inside the indentation of
a line or behind the source. Main statement: no diagnostic is given if the place is inside a
character or too far behind the indentation, and any other has its number, its excerpt and its caret
where they belong (`render_outcome`).
-/

set_option autoImplicit false

namespace Lexicon

open Text

namespace Diagnostic

/-! ### Bars -/

section Bars

variable {number : Nat}

theorem idxOf?_bar {front back : List Char} (plain : '|' ∉ front) :
    (front ++ '|' :: back).idxOf? '|' = some front.length := by
  induction front with
  | nil => rfl
  | cons c front ih =>
    rw [List.mem_cons, not_or] at plain
    rw [List.cons_append, List.idxOf?_cons, if_neg (by simpa using Ne.symm plain.1), ih plain.2]
    rfl

def barColumn (number : Nat) : Nat := (toString number).length + 1

theorem idxOf?_gutter (back : List Char) :
    (gutter number ++ back).idxOf? '|' = some (barColumn number) := by
  have plain : '|' ∉ List.replicate (barColumn number) ' ' := by simp
  have found := @idxOf?_bar _ back plain
  rw [List.length_replicate] at found
  rwa [gutter, List.append_assoc]

theorem idxOf?_numbered (shown : List Char) :
    (numbered number shown).idxOf? '|' = some (barColumn number) := by
  have plain : '|' ∉ (toString number).toList ++ [' '] := by
    rw [List.mem_append, not_or]
    exact ⟨not_mem_toString rfl number, by decide⟩
  have found := @idxOf?_bar _ (' ' :: shown) plain
  rw [List.length_append, String.length_toList, List.append_assoc] at found
  exact found

end Bars

/-! ### The lines of an excerpt -/

/-- Three lines with their bars below each other. The one in the middle has a number and an excerpt,
and in the last one the caret stands `shift` columns behind the first column of the excerpt. -/
structure Drawn (number : Nat) (excerpt : List Char) (shift : Nat) (top middle bottom : List Char) :
    Prop where
  unbroken : ∀ one ∈ [top, middle, bottom], '\n' ∉ one
  aligned : ∃ column, ∀ one ∈ [top, middle, bottom], one.idxOf? '|' = some column
  labelled : middle = (toString number).toList ++ [' ', '|', ' '] ++ excerpt
  pointed : ∀ place, bottom[place]? = some '^' ↔
    place = ((toString number).toList ++ [' ', '|', ' ']).length + shift

theorem drawn_linesAt {number shift : Nat} {excerpt : List Char} (unbroken : '\n' ∉ excerpt) :
    Drawn number excerpt shift (gutter number) (numbered number excerpt)
      (caretLine number (shift + 1)) where
  unbroken := by
    simp only [List.forall_mem_cons]
    exact ⟨newline_not_mem_gutter _, newline_not_mem_numbered unbroken,
      newline_not_mem_caretLine _ _, by simp⟩
  aligned := by
    refine ⟨barColumn number, ?_⟩
    simp only [List.forall_mem_cons]
    exact ⟨by simpa using idxOf?_gutter [], idxOf?_numbered excerpt, idxOf?_gutter _, by simp⟩
  labelled := (List.append_assoc _ _ _).symm
  pointed := by
    intro place
    rw [getElem?_caretLine, length_gutter]

section Outcome

variable {failure : Failure} {source : String} {line : SourceLine}

theorem line?_of_null (null : failure.position.isNull = true) : line? failure source = none := by
  rw [line?, if_pos null]

theorem render_message (file : String) (missing : line? failure source = none) :
    ∃ text, render failure source file = .ok text ∧ text.toList =
      written [headline failure, '-' :: '>' :: ' ' :: file.toList, failure.message.toList] := by
  refine ⟨header failure file ++ failure.message ++ "\n", ?_, ?_⟩
  · rw [render, missing]
  · rw [String.toList_append, String.toList_append, header_written]
    simp [written]

theorem exists_cut_of_rendered {file text : String} (found : line? failure source = some line)
    (rendered : render failure source file = .ok text) :
    ∃ lead tail, line.text = lead ++ tail ∧ width lead = line.column ∧
      text.toList = written (linesAt failure file line
        (lead.length - (line.text.takeWhile isIndent).length + 1)) := by
  by_cases border : Border line.text line.column
  · obtain ⟨lead, tail, whole, place⟩ := border
    by_cases far : caretLimit < lead.length - (line.text.takeWhile isIndent).length + 1
    · cases rendered.symm.trans (render_of_far file found whole place far)
    · obtain ⟨shown, again, lines⟩ :=
        render_of_near file found whole place (Nat.not_lt.mp far)
      cases rendered.symm.trans again
      exact ⟨lead, tail, whole, place, lines⟩
  · cases rendered.symm.trans (render_of_inside file found border)

theorem render_crashes_iff {file : String} (found : line? failure source = some line) :
    (∃ crash, render failure source file = .error crash) ↔ ¬ Border line.text line.column ∨
      ∃ lead tail, line.text = lead ++ tail ∧ width lead = line.column ∧
        caretLimit < lead.length - (line.text.takeWhile isIndent).length + 1 := by
  constructor
  · rintro ⟨crash, crashed⟩
    by_cases border : Border line.text line.column
    · obtain ⟨lead, tail, whole, place⟩ := border
      refine .inr ⟨lead, tail, whole, place, Nat.lt_of_not_le fun near => ?_⟩
      obtain ⟨text, again, -⟩ := render_of_near file found whole place near
      cases crashed.symm.trans again
    · exact .inl border
  · rintro (inside | ⟨lead, tail, whole, place, far⟩)
    · exact ⟨_, render_of_inside file found inside⟩
    · exact ⟨_, render_of_far file found whole place far⟩

end Outcome

end Diagnostic

open Diagnostic in
/-- A failure that is not tied to a place in the source is given with its message. Otherwise its
line is shown, unless the place is inside a character or too far behind the indentation. -/
theorem render_outcome (failure : Failure) (source file : String) :
    let place := failure.position
    (place.isNull = true ∨ source.utf8ByteSize ≤ place.offset →
      ∃ text, render failure source file = .ok text ∧ text.toList = written
        [headline failure, '-' :: '>' :: ' ' :: file.toList, failure.message.toList]) ∧
    (place.isNull = false ∧ place.offset < source.utf8ByteSize →
      ∃ line before after, SourceLine.at? source.toList place.offset = some line ∧
        line.Stands source.toList place.offset before after ∧
        let indent := line.text.takeWhile isIndent
        ((∃ crash, render failure source file = .error crash) ↔
          ¬ Border source.toList place.offset ∨
            ∃ lead tail, line.text = lead ++ tail ∧ width lead = line.column ∧
              caretLimit < lead.length - indent.length + 1) ∧
        ∀ text, render failure source file = .ok text →
          ∃ lead tail top middle bottom, line.text = lead ++ tail ∧ width lead = line.column ∧
            text.toList = written
              [headline failure, '-' :: '>' :: ' ' :: file.toList, top, middle, bottom] ∧
            Drawn (lineAt source.toList place.offset) (trimEnd (line.text.dropWhile isIndent))
              (lead.length - indent.length) top middle bottom) := by
  constructor
  · intro untied
    apply render_message
    cases null : failure.position.isNull with
    | true => exact line?_of_null null
    | false =>
      rw [line?_of_tied null]
      apply SourceLine.at?_eq_none
      rw [width_toList]
      exact untied.resolve_left (by simp [null])
  · rintro ⟨tied, inside⟩
    rw [← width_toList] at inside
    obtain ⟨line, before, after, known, stands⟩ := SourceLine.exists_at? inside
    have found := (line?_of_tied tied).trans known
    refine ⟨line, before, after, known, stands, ?_, fun text rendered => ?_⟩
    · rw [stands.border_iff]
      exact render_crashes_iff found
    · obtain ⟨lead, tail, whole, place, lines⟩ := exists_cut_of_rendered found rendered
      rw [← stands.number_eq]
      exact ⟨lead, tail, _, _, _, whole, place, lines,
        drawn_linesAt (newline_not_mem_excerptText stands)⟩

/-- The place is inside the indentation, and the line that the failure states is not the line of the
place. -/
example : Diagnostic.render ⟨.missingPattern "WORD", ⟨1, 7⟩⟩ "  x" "f" =
    .ok ("Error: MissingPattern (Add a pattern for `WORD` to the vocabulary)\n-> f\n" ++
      "  |\n1 | x\n  | ^\n") := by
  decide +kernel

end Lexicon
