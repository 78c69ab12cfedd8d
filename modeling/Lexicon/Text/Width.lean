/-! Byte widths of texts in UTF-8 and the step from byte offsets to characters. -/

set_option autoImplicit false

namespace Lexicon.Text

def width (text : List Char) : Nat :=
  text.foldl (fun total c => total + c.utf8Size) 0

theorem foldl_width (text : List Char) (start : Nat) :
    text.foldl (fun total c => total + c.utf8Size) start = start + width text := by
  induction text generalizing start with
  | nil => rfl
  | cons c rest ih =>
    simp only [width, List.foldl_cons]
    rw [ih, ih (0 + c.utf8Size)]
    omega

@[simp] theorem width_nil : width [] = 0 := rfl

@[simp] theorem width_cons (c : Char) (rest : List Char) :
    width (c :: rest) = c.utf8Size + width rest := by
  simp only [width, List.foldl_cons]
  rw [foldl_width, foldl_width]
  omega

@[simp] theorem width_append (left right : List Char) :
    width (left ++ right) = width left + width right := by
  induction left with
  | nil => simp
  | cons c rest ih => simp [ih, Nat.add_assoc]

theorem width_ofList (text : List Char) : (String.ofList text).utf8ByteSize = width text := by
  induction text with
  | nil => rfl
  | cons c rest ih =>
    have parts : String.ofList (c :: rest) = String.singleton c ++ String.ofList rest := by
      rw [String.singleton_eq_ofList, ← String.ofList_append]
      rfl
    rw [parts, String.utf8ByteSize_append, String.utf8ByteSize_singleton, ih, width_cons]

theorem width_toList (text : String) : width text.toList = text.utf8ByteSize := by
  rw [← width_ofList, String.ofList_toList]

def countFrom (count bytes : Nat) : List Char → Option Nat
  | [] => if bytes = 0 then some count else none
  | c :: rest =>
      if bytes = 0 then some count
      else if bytes < c.utf8Size then none
      else countFrom (count + 1) (bytes - c.utf8Size) rest

/-- The number of characters in the first `bytes` bytes of a text, if no character is cut. -/
def charsBefore? (bytes : Nat) (text : List Char) : Option Nat :=
  countFrom 0 bytes text

end Lexicon.Text
