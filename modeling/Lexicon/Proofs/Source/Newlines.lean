import Lexicon.Text.Width

/-! Newlines before a byte offset.

A newline is a byte here. No other character has that byte in its encoding, so at the border of
two characters the count is that of the newline characters (`newlinesBefore_append`).
-/

set_option autoImplicit false

namespace Lexicon.Text

def bytes (text : List Char) : List UInt8 := text.flatMap String.utf8EncodeChar

def newlinesBefore (text : List Char) (offset : Nat) : Nat :=
  ((bytes text).take offset).count 0x0A

/-- The line of an offset, from one. -/
def lineAt (text : List Char) (offset : Nat) : Nat := newlinesBefore text offset + 1

@[simp] theorem bytes_nil : bytes [] = [] := rfl

theorem bytes_cons (c : Char) (rest : List Char) :
    bytes (c :: rest) = String.utf8EncodeChar c ++ bytes rest := rfl

theorem bytes_append (left right : List Char) :
    bytes (left ++ right) = bytes left ++ bytes right := by
  simp [bytes]

theorem length_bytes (text : List Char) : (bytes text).length = width text := by
  induction text with
  | nil => rfl
  | cons c rest ih =>
    rw [bytes_cons, List.length_append, String.length_utf8EncodeChar, ih, width_cons]

/-! ### One character -/

theorem newline_not_mem_ofNat (values : List Nat)
    (bounds : ∀ value ∈ values, value ≠ 10 ∧ value < 256) :
    0x0A ∉ values.map UInt8.ofNat := by
  intro member
  obtain ⟨value, listed, same⟩ := List.mem_map.mp member
  have codes : (UInt8.ofNat value).toNat = 10 := congrArg UInt8.toNat same
  rw [UInt8.toNat_ofNat', Nat.mod_eq_of_lt (bounds value listed).2] at codes
  exact (bounds value listed).1 codes

theorem newline_not_mem_encoding {c : Char} (other : c ≠ '\n') :
    0x0A ∉ String.utf8EncodeChar c := by
  have code : c.val.toNat ≠ 10 := fun same => other (Char.toNat_inj.mp same)
  unfold String.utf8EncodeChar
  dsimp only
  -- Only the encoding of a character of one byte has a byte below 128.
  split
  · exact newline_not_mem_ofNat [_] (List.forall_mem_singleton.mpr ⟨code, by omega⟩)
  · split
    · exact newline_not_mem_ofNat [_, _] (by simp; omega)
    · split
      · exact newline_not_mem_ofNat [_, _, _] (by simp; omega)
      · exact newline_not_mem_ofNat [_, _, _, _] (by simp; omega)

theorem count_encoding (c : Char) :
    (String.utf8EncodeChar c).count 0x0A = [c].count '\n' := by
  by_cases same : c = '\n'
  · subst same
    decide
  · rw [List.count_eq_zero_of_not_mem (newline_not_mem_encoding same),
      List.count_eq_zero_of_not_mem (by simpa using Ne.symm same)]

theorem count_bytes (text : List Char) : (bytes text).count 0x0A = text.count '\n' := by
  induction text with
  | nil => rfl
  | cons c rest ih =>
    rw [bytes_cons, List.count_append, count_encoding, ih, ← List.count_append,
      List.singleton_append]

/-! ### Counts -/

@[simp] theorem newlinesBefore_zero (text : List Char) : newlinesBefore text 0 = 0 := rfl

@[simp] theorem newlinesBefore_nil (offset : Nat) : newlinesBefore [] offset = 0 := by
  simp [newlinesBefore]

theorem newlinesBefore_append (left right : List Char) (offset : Nat) :
    newlinesBefore (left ++ right) (width left + offset) =
      left.count '\n' + newlinesBefore right offset := by
  rw [newlinesBefore, bytes_append, ← length_bytes, List.take_length_add_append,
    List.count_append, count_bytes, newlinesBefore]

theorem newlinesBefore_width (left right : List Char) :
    newlinesBefore (left ++ right) (width left) = left.count '\n' := by
  simpa using newlinesBefore_append left right 0

theorem newlinesBefore_mono (text : List Char) {offset later : Nat} (order : offset ≤ later) :
    newlinesBefore text offset ≤ newlinesBefore text later :=
  (List.take_sublist_take_left order).count_le 0x0A

theorem newlinesBefore_cons {c : Char} {rest : List Char} {offset : Nat} (inside : 0 < offset) :
    newlinesBefore (c :: rest) offset =
      [c].count '\n' + newlinesBefore rest (offset - c.utf8Size) := by
  by_cases whole : c.utf8Size ≤ offset
  · obtain ⟨more, rfl⟩ := Nat.exists_eq_add_of_le whole
    have split := newlinesBefore_append [c] rest more
    rw [width_cons, width_nil, Nat.add_zero] at split
    rw [← List.singleton_append, split, Nat.add_sub_cancel_left]
  · have other : c ≠ '\n' := by
      rintro rfl
      exact whole inside
    have cut : offset ≤ c.utf8Size := Nat.le_of_not_le whole
    have short : newlinesBefore (c :: rest) offset ≤ newlinesBefore (c :: rest) c.utf8Size :=
      newlinesBefore_mono _ cut
    have none : newlinesBefore (c :: rest) c.utf8Size = [c].count '\n' := by
      simpa using newlinesBefore_width [c] rest
    rw [Nat.sub_eq_zero_of_le cut, newlinesBefore_zero]
    rw [List.count_eq_zero_of_not_mem (by simpa using Ne.symm other)] at none ⊢
    omega

example : newlinesBefore "\u00E9\n".toList 1 = 0 ∧ newlinesBefore "\u00E9\n".toList 3 = 1 := by
  decide

end Lexicon.Text
