import Lexicon.Proofs.Source.Tracking
import Lexicon.Source.Line

/-! The line of an offset against its source.

Main statements: an offset inside a source has a line, which is the part of the source between two
newlines that holds the offset (`at?_spec`), and the number of this line is that of the newlines
before the offset and one (`Stands.number_eq`). If the offset is at the border of two characters, the
line can be cut there (`Stands.cut`).
-/

set_option autoImplicit false

namespace Lexicon

/-! ### Borders of characters -/

namespace Text

theorem width_pos {text : List Char} (filled : text ≠ []) : 0 < width text := by
  cases text with
  | nil => exact absurd rfl filled
  | cons c rest =>
    have size := c.utf8Size_pos
    rw [width_cons]
    omega

theorem prefix_of_width_le {left right other rest : List Char}
    (same : left ++ right = other ++ rest) (shorter : width left ≤ width other) :
    ∃ more, other = left ++ more ∧ right = more ++ rest := by
  rcases List.append_eq_append_iff.mp same with ⟨more, longer, rest⟩ | ⟨more, longer, rest⟩
  · exact ⟨more, longer, rest⟩
  · rw [longer, width_append] at shorter
    have none : more = [] := Classical.byContradiction fun filled => by
      have size := width_pos filled
      omega
    subst none
    exact ⟨[], by simpa using longer.symm, by simpa using rest.symm⟩

theorem append_inj_of_width {left right other rest : List Char}
    (same : left ++ right = other ++ rest) (size : width left = width other) :
    left = other ∧ right = rest := by
  obtain ⟨more, longer, tail⟩ := prefix_of_width_le same (Nat.le_of_eq size)
  have none : more = [] := Classical.byContradiction fun filled => by
    have positive := width_pos filled
    rw [longer, width_append] at size
    omega
  subst none
  exact ⟨by simpa using longer.symm, tail⟩

theorem countFrom_width (count : Nat) (left right : List Char) :
    countFrom count (width left) (left ++ right) = some (count + left.length) := by
  induction left generalizing count with
  | nil =>
    cases right <;> rfl
  | cons c left ih =>
    have size := c.utf8Size_pos
    have rest : c.utf8Size + width left - c.utf8Size = width left := Nat.add_sub_cancel_left _ _
    rw [List.cons_append, countFrom, width_cons, if_neg (by omega), if_neg (by omega), rest, ih,
      List.length_cons, Nat.add_right_comm, Nat.add_assoc]

theorem charsBefore?_width (left right : List Char) :
    charsBefore? (width left) (left ++ right) = some left.length := by
  rw [charsBefore?, countFrom_width, Nat.zero_add]

/-- A byte offset at which a text can be cut without cutting a character. -/
def Border (text : List Char) (offset : Nat) : Prop :=
  ∃ left right, text = left ++ right ∧ width left = offset

theorem border_of_countFrom {count total bytes : Nat} {text : List Char}
    (counted : countFrom count bytes text = some total) : Border text bytes := by
  induction text generalizing count bytes with
  | nil =>
    rw [countFrom] at counted
    by_cases none : bytes = 0
    · exact ⟨[], [], rfl, none.symm⟩
    · rw [if_neg none] at counted
      cases counted
  | cons c rest ih =>
    rw [countFrom] at counted
    by_cases none : bytes = 0
    · exact ⟨[], c :: rest, rfl, none.symm⟩
    by_cases inside : bytes < c.utf8Size
    · rw [if_neg none, if_pos inside] at counted
      cases counted
    · rw [if_neg none, if_neg inside] at counted
      obtain ⟨left, right, rfl, size⟩ := ih counted
      refine ⟨c :: left, right, rfl, ?_⟩
      rw [width_cons, size]
      omega

theorem charsBefore?_eq_none_iff {bytes : Nat} {text : List Char} :
    charsBefore? bytes text = none ↔ ¬ Border text bytes := by
  constructor
  · rintro none ⟨left, right, rfl, rfl⟩
    rw [charsBefore?_width] at none
    cases none
  · intro inside
    refine Option.eq_none_iff_forall_ne_some.mpr fun total counted => inside ?_
    exact border_of_countFrom counted

end Text

namespace SourceLine

open Text

/-- A line holds an offset of a source: it stands behind `before`, where a line starts, and in
front of `after`. No line but the last one is without its newline. -/
structure Stands (line : SourceLine) (source : List Char) (offset : Nat)
    (before after : List Char) : Prop where
  split : source = before ++ (line.text ++ after)
  starts : before = [] ∨ before.getLast? = some '\n'
  ends : ∃ body, '\n' ∉ body ∧ (line.text = body ++ ['\n'] ∨ line.text = body ∧ after = [])
  number : line.number = before.count '\n' + 1
  place : offset = width before + line.column
  inside : line.column < width line.text

theorem find?_spec {source before passed rest : List Char} {offset : Nat}
    (split : source = before ++ (passed.reverse ++ rest))
    (starts : before = [] ∨ before.getLast? = some '\n') (unbroken : '\n' ∉ passed)
    (reached : width before ≤ offset) :
    match find? offset (before.count '\n' + 1) (width before) (width before + width passed.reverse)
      passed rest with
    | none => width source ≤ offset
    | some line => ∃ before after, line.Stands source offset before after := by
  -- `passed` is the part of the current line that has been walked over, latest character first.
  induction rest generalizing before passed with
  | nil =>
    rw [find?]
    by_cases first : offset < width before + width passed.reverse
    · rw [if_pos first]
      exact ⟨before, [], split, starts, ⟨passed.reverse, by simpa using unbroken, .inr ⟨rfl, rfl⟩⟩,
        rfl, by dsimp only; omega, by dsimp only; omega⟩
    · rw [if_neg first]
      dsimp only
      rw [split, List.append_nil, width_append]
      omega
  | cons c rest ih =>
    have longer : width before + width passed.reverse + c.utf8Size =
        width before + width (c :: passed).reverse := by
      rw [List.reverse_cons, width_append, width_cons, width_nil, Nat.add_zero, Nat.add_assoc]
    have walked : source = before ++ ((c :: passed).reverse ++ rest) := by
      rw [split, List.reverse_cons, List.append_assoc, List.singleton_append]
    rw [find?]
    simp only [longer]
    by_cases other : c ≠ '\n'
    · rw [if_pos other]
      exact ih walked starts (by simp [unbroken, Ne.symm other]) reached
    rw [if_neg other]
    obtain rfl : c = '\n' := Decidable.not_not.mp other
    by_cases first : offset < width before + width ('\n' :: passed).reverse
    · rw [if_pos first]
      exact ⟨before, rest, walked, starts,
        ⟨passed.reverse, by simpa using unbroken, .inl List.reverse_cons⟩,
        rfl, by dsimp only; omega, by dsimp only; omega⟩
    · rw [if_neg first]
      -- The next line starts behind this one.
      have count : (before ++ ('\n' :: passed).reverse).count '\n' = before.count '\n' + 1 := by
        rw [List.count_append, List.count_reverse, List.count_cons_self,
          List.count_eq_zero_of_not_mem unbroken]
      have later := @ih (before ++ ('\n' :: passed).reverse) [] (by simpa using walked)
        (.inr (by simp)) List.not_mem_nil (by rw [width_append]; omega)
      rw [count, width_append, List.reverse_nil, width_nil, Nat.add_zero] at later
      exact later

theorem at?_spec (source : List Char) (offset : Nat) :
    match at? source offset with
    | none => width source ≤ offset
    | some line => ∃ before after, line.Stands source offset before after :=
  @find?_spec source [] [] source offset rfl (.inl rfl) List.not_mem_nil (Nat.zero_le _)

theorem exists_at? {source : List Char} {offset : Nat} (inside : offset < width source) :
    ∃ line before after, at? source offset = some line ∧ line.Stands source offset before after := by
  have spec := at?_spec source offset
  cases found : at? source offset with
  | none =>
    rw [found] at spec
    exact absurd inside (Nat.not_lt.mpr spec)
  | some line =>
    rw [found] at spec
    obtain ⟨before, after, stands⟩ := spec
    exact ⟨line, before, after, rfl, stands⟩

theorem at?_eq_none {source : List Char} {offset : Nat} (past : width source ≤ offset) :
    at? source offset = none := by
  have spec := at?_spec source offset
  cases found : at? source offset with
  | none => rfl
  | some line =>
    rw [found] at spec
    obtain ⟨before, after, stands⟩ := spec
    have inside := stands.inside
    rw [stands.split, stands.place, width_append, width_append] at past
    omega

namespace Stands

variable {line : SourceLine} {source before after : List Char} {offset : Nat}

theorem number_eq (stands : line.Stands source offset before after) :
    line.number = lineAt source offset := by
  obtain ⟨body, unbroken, ending⟩ := stands.ends
  have inside := stands.inside
  have whole : ∃ tail, line.text ++ after = body ++ tail ∧ line.column ≤ width body := by
    rcases ending with same | ⟨same, -⟩
    · rw [same, width_append] at inside
      have newline : width ['\n'] = 1 := rfl
      exact ⟨['\n'] ++ after, by rw [same, List.append_assoc], by omega⟩
    · rw [same] at inside
      exact ⟨after, by rw [same], Nat.le_of_lt inside⟩
  obtain ⟨tail, same, within⟩ := whole
  have none : newlinesBefore (line.text ++ after) line.column = 0 := by
    have least := newlinesBefore_mono (body ++ tail) within
    rw [newlinesBefore_width, List.count_eq_zero_of_not_mem unbroken] at least
    rw [same]
    omega
  rw [stands.number, lineAt, stands.split, stands.place, newlinesBefore_append, none, Nat.add_zero]

theorem cut (stands : line.Stands source offset before after) {front back : List Char}
    (split : source = front ++ back) (place : offset = width front) :
    ∃ lead tail, front = before ++ lead ∧ line.text = lead ++ tail ∧ back = tail ++ after ∧
      width lead = line.column ∧ tail ≠ [] := by
  have column := stands.place
  have inside := stands.inside
  obtain ⟨lead, rfl, rest⟩ := prefix_of_width_le (stands.split.symm.trans split) (by omega)
  rw [width_append] at place
  obtain ⟨tail, text, rfl⟩ := prefix_of_width_le rest.symm (by omega)
  refine ⟨lead, tail, rfl, text, rfl, by omega, ?_⟩
  rintro rfl
  rw [text, List.append_nil] at inside
  omega

theorem border_iff (stands : line.Stands source offset before after) :
    Border source offset ↔ Border line.text line.column := by
  constructor
  · rintro ⟨front, back, split, rfl⟩
    obtain ⟨lead, tail, -, text, -, column, -⟩ := stands.cut split rfl
    exact ⟨lead, tail, text, column⟩
  · rintro ⟨lead, tail, text, column⟩
    refine ⟨before ++ lead, tail ++ after, ?_, ?_⟩
    · rw [stands.split, text, List.append_assoc, List.append_assoc]
    · rw [width_append, column, stands.place]

theorem newline_last (stands : line.Stands source offset before after) {lead tail : List Char}
    (text : line.text = lead ++ tail) (filled : tail ≠ []) :
    '\n' ∉ lead ∧
      ∃ part, '\n' ∉ part ∧ (tail = part ++ ['\n'] ∨ tail = part ∧ after = []) := by
  obtain ⟨body, unbroken, ending⟩ := stands.ends
  rcases ending with same | ⟨same, last⟩
  · rcases List.eq_nil_or_concat tail with rfl | ⟨part, c, rfl⟩
    · exact absurd rfl filled
    · rw [text, List.concat_eq_append, ← List.append_assoc] at same
      obtain ⟨rfl, newline⟩ := List.append_inj' same rfl
      rw [List.mem_append, not_or] at unbroken
      exact ⟨unbroken.1, part, unbroken.2, .inl (by rw [List.concat_eq_append, newline])⟩
  · rw [← same, text, List.mem_append, not_or] at unbroken
    exact ⟨unbroken.1, tail, unbroken.2, .inr ⟨rfl, last⟩⟩

theorem bytes_eq (stands : line.Stands source offset before after) :
    bytes line.text = ((bytes source).drop (width before)).take (width line.text) := by
  rw [stands.split, bytes_append, bytes_append, ← length_bytes, ← length_bytes, List.drop_left,
    List.take_left]

theorem newline_before (stands : line.Stands source offset before after) :
    width before = 0 ∨ (bytes source)[width before - 1]? = some 0x0A := by
  rcases stands.starts with rfl | last
  · exact .inl rfl
  · obtain ⟨front, rfl⟩ := List.getLast?_eq_some_iff.mp last
    refine .inr ?_
    have place : width (front ++ ['\n']) - 1 = (bytes front).length := by
      rw [length_bytes, width_append]
      rfl
    rw [place, stands.split, bytes_append, bytes_append, List.append_assoc,
      List.getElem?_append_right (Nat.le_refl _), Nat.sub_self]
    rfl

theorem newline_ends (stands : line.Stands source offset before after) :
    '\n' ∉ line.text.dropLast ∧
      (line.text.getLast? = some '\n' ∨ width before + width line.text = width source) := by
  obtain ⟨body, unbroken, ending⟩ := stands.ends
  rcases ending with same | ⟨same, rfl⟩
  · rw [same, List.dropLast_concat]
    exact ⟨unbroken, .inl (by simp)⟩
  · rw [same]
    refine ⟨fun inside => unbroken (List.dropLast_subset _ inside), .inr ?_⟩
    rw [stands.split, same, List.append_nil, width_append]

end Stands

/-- An offset has no line exactly if it is not inside the source. Otherwise its line is the stretch of
bytes that holds the offset, from the beginning of the source or a newline on up to the next newline,
that one included, or the end of the source; and its number is one more than that of the newlines
before it, which is what a new tracker answers for the offset. -/
theorem at?_exact (source : List Char) (offset : Nat) :
    (at? source offset = none ↔ width source ≤ offset) ∧
    ∀ line, at? source offset = some line →
      ∃ start, offset = start + line.column ∧
        bytes line.text = ((bytes source).drop start).take (width line.text) ∧
        (start = 0 ∨ (bytes source)[start - 1]? = some 0x0A) ∧
        '\n' ∉ line.text.dropLast ∧
        (line.text.getLast? = some '\n' ∨ start + width line.text = width source) ∧
        line.column < width line.text ∧
        line.number = newlinesBefore source start + 1 ∧
        ∃ next, (LineTracker.ofText source).advance offset = .ok (line.number, next) := by
  have spec := at?_spec source offset
  cases found : at? source offset with
  | none =>
    rw [found] at spec
    exact ⟨⟨fun _ => spec, fun _ => rfl⟩, by rintro line ⟨⟩⟩
  | some line =>
    rw [found] at spec
    obtain ⟨before, after, stands⟩ := spec
    have inside := stands.inside
    have place := stands.place
    have size : width source = width before + (width line.text + width after) := by
      rw [stands.split, width_append, width_append]
    have within : min offset (width source) = offset := Nat.min_eq_left (by omega)
    obtain ⟨unbroken, ending⟩ := stands.newline_ends
    obtain ⟨next, asked, -, -⟩ :=
      LineTracker.advance_of_tracks (LineTracker.tracks_ofText source) (Nat.zero_le (min offset _))
    refine ⟨⟨by rintro ⟨⟩, fun past => absurd past (by omega)⟩, ?_⟩
    rintro _ ⟨⟩
    refine ⟨width before, place, stands.bytes_eq, stands.newline_before, unbroken, ending, inside,
      ?_, next, ?_⟩
    · rw [stands.number, stands.split, newlinesBefore_width]
    · rw [asked, within, stands.number_eq]

example : at? "a\n\u00E9\n".toList 3 = some ⟨2, "\u00E9\n".toList, 1⟩ := by decide

end SourceLine

end Lexicon
