import Lexicon.Proofs.Pattern.Description
import Lexicon.Proofs.Pattern.Greedy

/-! The shapes that lexemes have.

Main statements: the match that a shape's pattern prefers is the longest text of the pattern
that stands at the place, and there is a match if there is such a text.
-/

set_option autoImplicit false

namespace Lexicon

open Pattern

/-- What a lexeme is made of: given characters; a character and others that may follow it;
characters of one kind; digits with a fraction; or a text in quotation marks. -/
inductive Shape where
  | word (first : Char) (rest : List Char)
  | run (head tail : CharSet)
  | block (members : CharSet)
  | decimal
  | quoted
  deriving DecidableEq, Repr

namespace Shape

def digits : CharSet := .range '0' '9'

def fraction : Pattern := .cat (.set (.single '.')) (.many true (.set digits))

def quotedPart : Pattern :=
  .alt (.cat (.set (.single '\\')) (.set (.single '"'))) (.set (.compl (.single '"')))

def pattern : Shape → Pattern
  | word first rest => .sequence ((first :: rest).map fun c => .set (.single c))
  | run head tail => .cat (.set head) (.star true (.set tail))
  | block members => .many true (.set members)
  | decimal => .cat (.many true (.set digits)) (.upTo true 1 fraction)
  | quoted =>
      .cat (.set (.single '"')) (.cat (.star true quotedPart) (.set (.single '"')))

/-- The size of a fraction, with the point in front of it. -/
def fractionExtent : List Char → Nat
  | [] => 0
  | c :: text =>
      if c = '.' then
        match runExtent digits digits text with
        | some size => size + 1
        | none => 0
      else 0

/-- The size of the rest of a quoted text. An escaped quotation mark ends it only if no other
does. -/
def quotedExtent : List Char → Option Nat
  | [] => none
  | '"' :: _ => some 1
  | '\\' :: '"' :: text =>
      match quotedExtent text with
      | some size => some (size + 2)
      | none => some 2
  | _ :: text => (quotedExtent text).map (· + 1)

def extent : Shape → List Char → Option Nat
  | word first rest, text =>
      if (first :: rest).isPrefixOf text then some (rest.length + 1) else none
  | run head tail, text => runExtent head tail text
  | block members, text => runExtent members members text
  | decimal, [] => none
  | decimal, c :: text =>
      if c ∈ digits then
        some (fractionExtent (text.dropWhile digits.contains) +
          (text.takeWhile digits.contains).length + 1)
      else none
  | quoted, [] => none
  | quoted, c :: text => if c = '"' then (quotedExtent text).map (· + 1) else none

/-! ### The preferred match -/

theorem preferred?_word (before : Option Char) (first : Char) (rest text : List Char) :
    Thread.preferred? ⟨[.goal (word first rest).pattern], []⟩ before text =
      ((word first rest).extent text).map (⟨·, []⟩) := by
  induction rest generalizing before first text with
  | nil =>
    cases text with
    | nil => rfl
    | cons c text =>
      by_cases same : c = first
      · simp [pattern, Pattern.sequence, extent, same, Hit.later]
      · simp [pattern, Pattern.sequence, extent, same, Ne.symm same]
  | cons second rest ih =>
    cases text with
    | nil => simp [pattern, Pattern.sequence, extent]
    | cons c text =>
      have inner := ih (some c) second text
      simp only [pattern, List.map_cons, Pattern.sequence, preferred?_cat, preferred?_set_cons]
        at inner ⊢
      rw [inner]
      by_cases same : c = first
      · by_cases begins : (second :: rest).isPrefixOf text
        · simp [extent, same, begins, Hit.later]
        · simp [extent, same, begins]
      · simp [extent, same, Ne.symm same]

theorem preferred?_fraction (before : Option Char) (text : List Char) :
    Thread.preferred? ⟨[.goal (upTo true 1 fraction)], []⟩ before text =
      some ⟨fractionExtent text, []⟩ := by
  have steps (place : Surroundings) :
      framesSteps place [.goal (upTo true 1 fraction)] (.ofGroups []) =
        [.read (.single '.') ⟨[.goal (.many true (.set digits))], []⟩, .done []] := by
    rfl
  cases text with
  | nil => simp [Thread.preferred?, Thread.steps, steps, finished?, fractionExtent]
  | cons c text =>
    simp only [Thread.preferred?, Thread.steps, steps, List.findSome?_cons, Step.hit?,
      preferred?_block, fractionExtent, CharSet.mem_single]
    by_cases point : c = '.'
    · cases runExtent digits digits text <;> simp [point, Hit.later]
    · simp [point]

theorem preferred?_decimal (before : Option Char) (text : List Char) :
    Thread.preferred? ⟨[.goal decimal.pattern], []⟩ before text =
      (decimal.extent text).map (⟨·, []⟩) := by
  have reads : ReadsOn digits (.again true (.set digits)) [.goal (upTo true 1 fraction)] :=
    fun _ => rfl
  simp only [pattern, preferred?_cat, preferred?_many_set]
  cases text with
  | nil => rfl
  | cons c text =>
    have whole := preferred?_greedy reads preferred?_fraction (some c) text
    simp only [preferred?_set_cons, whole, extent]
    split <;> simp [Hit.later]

def quotedRest : Thread := ⟨[.goal (.star true quotedPart), .goal (.set (.single '"'))], []⟩

theorem quotedRest_frames : (⟨quotedRest.frames, []⟩ : Thread) = quotedRest := rfl

theorem quotedRest_steps (place : Surroundings) :
    quotedRest.steps place =
      [.read (.single '\\') ⟨.goal (.set (.single '"')) :: quotedRest.frames, []⟩,
        .read (.compl (.single '"')) quotedRest,
        .read (.single '"') ⟨[], []⟩] := by
  rfl

theorem preferred?_quotedRest_cons (before : Option Char) (c : Char) (text : List Char) :
    quotedRest.preferred? before (c :: text) =
      (if c = '\\' then
        (Thread.preferred? ⟨.goal (.set (.single '"')) :: quotedRest.frames, []⟩ (some c)
          text).map (·.later 1)
      else none).or
        (if c = '"' then some ⟨1, []⟩ else (quotedRest.preferred? (some c) text).map (·.later 1)) := by
  simp only [Thread.preferred?, quotedRest_steps, List.findSome?_cons, List.findSome?_nil,
    Step.hit?, CharSet.mem_single, CharSet.mem_compl, preferred?_done]
  by_cases escape : c = '\\'
  · subst escape
    generalize Thread.preferred? ⟨_ :: quotedRest.frames, []⟩ _ text = pair
    generalize quotedRest.preferred? _ text = single
    cases pair <;> cases single <;> simp
  · by_cases mark : c = '"'
    · simp [mark, Hit.later]
    · generalize quotedRest.preferred? _ text = single
      cases single <;> simp [escape, mark]

/-- The preferred match takes an escaped quotation mark for a part of the text; it comes back to
it if no other quotation mark can end the text. -/
theorem preferred?_quotedRest (before : Option Char) (text : List Char) :
    quotedRest.preferred? before text = (quotedExtent text).map (⟨·, []⟩) := by
  -- The cases are those of `quotedExtent`. In the third and the fourth one the text starts with an
  -- escaped mark; they differ in whether another mark can end the text.
  induction text using quotedExtent.induct generalizing before with
  | case1 => rfl
  | case2 text => simp [preferred?_quotedRest_cons, quotedExtent]
  | case3 text size outcome ih =>
    have rest := ih (some '"')
    rw [preferred?_quotedRest_cons]
    simp [quotedExtent, rest, outcome, quotedRest_frames, Hit.later]
  | case4 text outcome ih =>
    have rest := ih (some '"')
    rw [preferred?_quotedRest_cons, preferred?_quotedRest_cons]
    simp [quotedExtent, rest, outcome, quotedRest_frames, Hit.later]
  | case5 c text mark escape ih =>
    -- A lone escape can be read only as one of the other characters.
    have unpaired : c = '\\' →
        Thread.preferred? ⟨.goal (.set (.single '"')) :: quotedRest.frames, []⟩ (some c) text =
          none := by
      intro first
      cases text with
      | nil => rfl
      | cons d text =>
        have other : d ≠ '"' := fun same => escape text first (same ▸ rfl)
        simp [other]
    rw [preferred?_quotedRest_cons, ih, quotedExtent.eq_4 c text mark escape, if_neg mark]
    by_cases first : c = '\\'
    · rw [unpaired first]
      simp [Function.comp_def, Hit.later]
    · simp [first, Function.comp_def, Hit.later]

theorem matchHere?_eq (shape : Shape) (before : Option Char) (text : List Char) :
    shape.pattern.matchHere? before text = (shape.extent text).map (⟨·, []⟩) := by
  rw [Pattern.matchHere?_eq]
  cases shape with
  | word first rest => exact preferred?_word before first rest text
  | run head tail => simp only [pattern, preferred?_cat, preferred?_run, extent]
  | block members => exact preferred?_block members text
  | decimal => exact preferred?_decimal before text
  | quoted =>
    simp only [pattern, preferred?_cat]
    cases text with
    | nil => rfl
    | cons c text =>
      have inner := preferred?_quotedRest (some c) text
      unfold quotedRest at inner
      simp only [preferred?_set_cons, preferred?_cat, inner, extent, CharSet.mem_single]
      split <;> simp [Function.comp_def, Hit.later]

end Shape

end Lexicon
