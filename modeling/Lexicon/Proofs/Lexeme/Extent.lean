import Lexicon.Proofs.Lexeme.Shape

/-! Extents against descriptions.

Main statements: the extent of a shape is the size of a text that its pattern describes
(`extent_described`), and no longer text of the pattern stands at the place
(`extent_of_describes`). So the preference among the matches of a shape is for the longest.
-/

set_option autoImplicit false

namespace Lexicon

open Pattern

namespace Shape

/-! ### Runs -/

theorem mem_of_mem_takeWhile {members : CharSet} {c : Char} {text : List Char}
    (inside : c ∈ text.takeWhile members.contains) : c ∈ members :=
  CharSet.mem_iff.mpr (List.all_eq_true.mp List.all_takeWhile c inside)

theorem takeWhile_of_mem {members : CharSet} {text : List Char}
    (inside : ∀ c ∈ text, c ∈ members) (rest : List Char) :
    (text ++ rest).takeWhile members.contains = text ++ rest.takeWhile members.contains :=
  List.takeWhile_append_of_pos fun c member => CharSet.mem_iff.mp (inside c member)

theorem runExtent_eq_some {head tail : CharSet} {text : List Char} {size : Nat}
    (found : runExtent head tail text = some size) :
    ∃ c others rest, text = c :: others ++ rest ∧ c ∈ head ∧ (∀ d ∈ others, d ∈ tail) ∧
      others.length + 1 = size := by
  cases text with
  | nil => cases found
  | cons c text =>
    simp only [runExtent] at found
    split at found
    · next member =>
      refine ⟨c, text.takeWhile tail.contains, text.dropWhile tail.contains, ?_, member,
        fun d => mem_of_mem_takeWhile, Option.some.inj found⟩
      rw [List.cons_append, List.takeWhile_append_dropWhile]
    · cases found

theorem runExtent_append {head tail : CharSet} {c : Char} {others : List Char}
    (first : c ∈ head) (inside : ∀ d ∈ others, d ∈ tail) (rest : List Char) :
    ∃ size, runExtent head tail (c :: others ++ rest) = some size ∧ others.length + 1 ≤ size := by
  refine ⟨_, if_pos first, ?_⟩
  rw [List.append_eq, takeWhile_of_mem inside, List.length_append]
  omega

theorem describes_run {head tail : CharSet} {before after : Option Char} {text : List Char} :
    (run head tail).pattern.Describes before text after ↔
      ∃ c others, text = c :: others ∧ c ∈ head ∧ ∀ d ∈ others, d ∈ tail := by
  simp only [pattern, describes_cat, describes_set, describes_star_set]
  constructor
  · rintro ⟨_, others, rfl, ⟨c, first, rfl⟩, inside⟩
    exact ⟨c, others, rfl, first, inside⟩
  · rintro ⟨c, others, rfl, first, inside⟩
    exact ⟨[c], others, rfl, ⟨c, first, rfl⟩, inside⟩

theorem describes_block {members : CharSet} {before after : Option Char} {text : List Char} :
    (block members).pattern.Describes before text after ↔
      text ≠ [] ∧ ∀ c ∈ text, c ∈ members := describes_many_set

theorem block_extent {members : CharSet} {text : List Char} {size : Nat}
    (found : (block members).extent text = some size) :
    text.take size = text.takeWhile members.contains ∧
      text.drop size = text.dropWhile members.contains := by
  cases text with
  | nil => cases found
  | cons c rest =>
    simp only [extent, runExtent] at found
    split at found
    · next member =>
      cases found
      have split := List.takeWhile_append_dropWhile (p := members.contains) (l := rest)
      rw [List.take_succ_cons, List.drop_succ_cons,
        List.takeWhile_cons_of_pos (CharSet.mem_iff.mp member),
        List.dropWhile_cons_of_pos (CharSet.mem_iff.mp member)]
      constructor
      · congr 1
        conv => enter [1, 2]; rw [← split]
        exact List.take_left
      · conv => enter [1, 2]; rw [← split]
        exact List.drop_left
    · cases found

/-! ### Given characters -/

theorem describes_word {first : Char} {rest : List Char} {before after : Option Char}
    {text : List Char} :
    (word first rest).pattern.Describes before text after ↔ text = first :: rest := by
  induction rest generalizing first before text with
  | nil => simp [pattern, Pattern.sequence, describes_set]
  | cons second rest ih =>
    simp only [pattern, List.map_cons, Pattern.sequence, describes_cat, describes_set] at ih ⊢
    constructor
    · rintro ⟨_, right, rfl, ⟨c, same, rfl⟩, others⟩
      rw [ih.mp others, CharSet.mem_single.mp same]
      rfl
    · rintro rfl
      exact ⟨[first], second :: rest, rfl, ⟨first, CharSet.mem_single.mpr rfl, rfl⟩, ih.mpr rfl⟩

/-! ### Numbers -/

theorem describes_fraction {before after : Option Char} {text : List Char} :
    fraction.Describes before text after ↔
      ∃ c others, text = '.' :: c :: others ∧ c ∈ digits ∧ ∀ d ∈ others, d ∈ digits := by
  simp only [fraction, describes_cat, describes_set, describes_many_set]
  constructor
  · rintro ⟨_, part, rfl, ⟨c, point, rfl⟩, filled, inside⟩
    cases part with
    | nil => exact absurd rfl filled
    | cons d others =>
      rw [CharSet.mem_single.mp point]
      exact ⟨d, others, rfl, inside d List.mem_cons_self,
        fun e member => inside e (List.mem_cons_of_mem d member)⟩
  · rintro ⟨c, others, rfl, first, inside⟩
    refine ⟨['.'], c :: others, rfl, ⟨'.', CharSet.mem_single.mpr rfl, rfl⟩, by simp, ?_⟩
    intro d member
    rcases List.mem_cons.mp member with rfl | member
    · exact first
    · exact inside d member

theorem fractionExtent_described (text : List Char) :
    ∃ part rest, text = part ++ rest ∧ part.length = fractionExtent text ∧
      ∀ before after, (upTo true 1 fraction).Describes before part after := by
  have nothing : ∃ part rest, text = part ++ rest ∧ part.length = 0 ∧
      ∀ before after, (upTo true 1 fraction).Describes before part after :=
    ⟨[], text, rfl, rfl, fun before after => .upToNone⟩
  cases text with
  | nil => exact nothing
  | cons c text =>
    simp only [fractionExtent]
    split
    · next point =>
      subst point
      cases found : runExtent digits digits text with
      | none => exact nothing
      | some size =>
        obtain ⟨d, others, rest, rfl, first, inside, same⟩ := runExtent_eq_some found
        refine ⟨'.' :: d :: others, rest, rfl, by simpa using same, fun before after => ?_⟩
        exact describes_optional.mpr
          (.inr (describes_fraction.mpr ⟨d, others, rfl, first, inside⟩))
    · exact nothing

theorem describes_decimal {before after : Option Char} {text : List Char} :
    decimal.pattern.Describes before text after ↔
      ∃ c whole part, text = c :: whole ++ part ∧ c ∈ digits ∧ (∀ d ∈ whole, d ∈ digits) ∧
        (part = [] ∨ ∃ d others, part = '.' :: d :: others ∧ d ∈ digits ∧
          ∀ e ∈ others, e ∈ digits) := by
  simp only [pattern, describes_cat, describes_optional, describes_fraction, describes_many_set]
  constructor
  · rintro ⟨whole, part, rfl, ⟨filled, inside⟩, fraction⟩
    cases whole with
    | nil => exact absurd rfl filled
    | cons c whole =>
      exact ⟨c, whole, part, rfl, inside c List.mem_cons_self,
        fun d member => inside d (List.mem_cons_of_mem c member), fraction⟩
  · rintro ⟨c, whole, part, rfl, first, inside, fraction⟩
    refine ⟨c :: whole, part, rfl, ⟨by simp, ?_⟩, fraction⟩
    intro d member
    rcases List.mem_cons.mp member with rfl | member
    · exact first
    · exact inside d member

/-! ### Quoted texts -/

theorem quotedExtent_described {text : List Char} {size : Nat}
    (found : quotedExtent text = some size) :
    ∃ body rest, text = body ++ '"' :: rest ∧ body.length + 1 = size ∧
      ∀ before after, (star true quotedPart).Describes before body after := by
  have empty (before after : Option Char) : (star true quotedPart).Describes before [] after :=
    .never
  have escaped (before after : Option Char) : quotedPart.Describes before ['\\', '"'] after :=
    .preferred (@Describes.cat _ _ before after ['\\'] ['"'] (.set (by decide)) (.set (by decide)))
  induction text using quotedExtent.induct generalizing size with
  | case1 => cases found
  | case2 text =>
    cases found
    exact ⟨[], text, rfl, rfl, empty⟩
  | case3 text inner outcome ih =>
    obtain ⟨body, rest, rfl, same, described⟩ := ih outcome
    simp only [quotedExtent, outcome, Option.some.injEq] at found
    refine ⟨'\\' :: '"' :: body, rest, rfl, by simp only [List.length_cons]; omega, ?_⟩
    exact fun before after =>
      @Describes.more true quotedPart before after ['\\', '"'] body (escaped _ _) (described _ _)
  | case4 text outcome ih =>
    simp only [quotedExtent, outcome, Option.some.injEq] at found
    refine ⟨['\\'], text, rfl, by simpa using found, fun before after => ?_⟩
    exact .star_cons (.other (.set (by decide))) (empty _ _)
  | case5 c text mark escape ih =>
    rw [quotedExtent.eq_4 c text mark escape] at found
    obtain ⟨inner, outcome, rfl⟩ := Option.map_eq_some_iff.mp found
    obtain ⟨body, rest, rfl, same, described⟩ := ih outcome
    refine ⟨c :: body, rest, rfl, by simp only [List.length_cons]; omega, fun before after => ?_⟩
    have single : c ∈ CharSet.compl (.single '"') :=
      CharSet.mem_compl.mpr fun same => mark (CharSet.mem_single.mp same)
    exact .star_cons (.other (.set single)) (described _ _)

theorem quotedExtent_cons {c : Char} {text : List Char} {size : Nat} (other : c ≠ '"')
    (found : quotedExtent text = some size) :
    ∃ longer, quotedExtent (c :: text) = some longer ∧ size + 1 ≤ longer := by
  by_cases pair : c = '\\' ∧ ∃ rest, text = '"' :: rest
  -- The text ended at the mark that is escaped now: it ends at a later one, or still there.
  · obtain ⟨rfl, rest, rfl⟩ := pair
    simp only [quotedExtent, Option.some.injEq] at found ⊢
    subst found
    cases quotedExtent rest with
    | none => exact ⟨2, rfl, Nat.le_refl 2⟩
    | some inner => exact ⟨inner + 2, rfl, by omega⟩
  · have apart (rest : List Char) (escape : c = '\\') : text = '"' :: rest → False :=
      fun same => pair ⟨escape, rest, same⟩
    rw [quotedExtent.eq_4 c text other apart, found]
    exact ⟨size + 1, rfl, Nat.le_refl _⟩

theorem quotedExtent_append {before after : Option Char} {body : List Char}
    (described : (star true quotedPart).Describes before body after) (rest : List Char) :
    ∃ size, quotedExtent (body ++ '"' :: rest) = some size ∧ body.length + 1 ≤ size := by
  -- From the last round to the first, so that each round stands in front of a text that ends.
  refine described.star_rounds (motive := fun body => ∃ size,
    quotedExtent (body ++ '"' :: rest) = some size ∧ body.length + 1 ≤ size)
    ⟨1, rfl, Nat.le_refl 1⟩ ?_
  rintro before after round body inner ⟨size, found, bound⟩
  rcases describes_alt.mp inner with escaped | single
  · obtain ⟨_, _, rfl, first, second⟩ := describes_cat.mp escaped
    obtain ⟨c, escape, rfl⟩ := describes_set.mp first
    obtain ⟨d, mark, rfl⟩ := describes_set.mp second
    rw [CharSet.mem_single.mp escape, CharSet.mem_single.mp mark]
    refine ⟨size + 2, ?_, by simp only [List.length_append, List.length_cons]; simp; omega⟩
    simp only [List.cons_append, List.nil_append, quotedExtent, found]
  · obtain ⟨c, member, rfl⟩ := describes_set.mp single
    have other : c ≠ '"' := fun same =>
      CharSet.mem_compl.mp member (CharSet.mem_single.mpr same)
    obtain ⟨longer, outcome, more⟩ := quotedExtent_cons other found
    exact ⟨longer, outcome, by simp only [List.length_append, List.length_singleton]; omega⟩

theorem describes_quoted {before after : Option Char} {text : List Char} :
    quoted.pattern.Describes before text after ↔
      ∃ body, text = '"' :: (body ++ ['"']) ∧
        (star true quotedPart).Describes (some '"') body (some '"') := by
  simp only [pattern, describes_cat, describes_set, CharSet.mem_single]
  constructor
  · rintro ⟨_, _, rfl, ⟨_, rfl, rfl⟩, body, _, rfl, described, ⟨_, rfl, rfl⟩⟩
    exact ⟨body, rfl, described⟩
  · rintro ⟨body, rfl, described⟩
    exact ⟨['"'], body ++ ['"'], rfl, ⟨'"', rfl, rfl⟩, body, ['"'], rfl, described,
      ⟨'"', rfl, rfl⟩⟩

/-! ### All shapes -/

theorem extent_described {shape : Shape} {text : List Char} {size : Nat}
    (found : shape.extent text = some size) :
    ∃ lexeme rest, text = lexeme ++ rest ∧ lexeme.length = size ∧
      ∀ before after, shape.pattern.Describes before lexeme after := by
  cases shape with
  | word first others =>
    simp only [extent] at found
    split at found
    · next begins =>
      obtain ⟨rest, same⟩ := List.isPrefixOf_iff_prefix.mp begins
      exact ⟨first :: others, rest, same.symm, Option.some.inj found,
        fun before after => describes_word.mpr rfl⟩
    · cases found
  | run head tail =>
    obtain ⟨c, others, rest, rfl, first, inside, same⟩ := runExtent_eq_some found
    exact ⟨c :: others, rest, rfl, same,
      fun before after => describes_run.mpr ⟨c, others, rfl, first, inside⟩⟩
  | block members =>
    obtain ⟨c, others, rest, rfl, first, inside, same⟩ := runExtent_eq_some found
    refine ⟨c :: others, rest, rfl, same, fun before after => describes_block.mpr ⟨by simp, ?_⟩⟩
    simpa [first] using inside
  | decimal =>
    cases text with
    | nil => cases found
    | cons c text =>
      simp only [extent] at found
      split at found
      · next first =>
        obtain ⟨part, rest, split, same, described⟩ :=
          fractionExtent_described (text.dropWhile digits.contains)
        refine ⟨c :: text.takeWhile digits.contains ++ part, rest, ?_, ?_, ?_⟩
        · rw [List.append_assoc, ← split, List.cons_append, List.takeWhile_append_dropWhile]
        · rw [List.length_append, List.length_cons, same, ← Option.some.inj found]
          omega
        · intro before after
          refine .cat (describes_many_set.mpr ⟨by simp, ?_⟩) (described _ _)
          intro d member
          rcases List.mem_cons.mp member with rfl | member
          · exact first
          · exact mem_of_mem_takeWhile member
      · cases found
  | quoted =>
    cases text with
    | nil => cases found
    | cons c text =>
      simp only [extent] at found
      split at found
      · next mark =>
        subst mark
        obtain ⟨size, outcome, rfl⟩ := Option.map_eq_some_iff.mp found
        obtain ⟨body, rest, rfl, same, described⟩ := quotedExtent_described outcome
        refine ⟨'"' :: (body ++ ['"']), rest, by simp, by simp; omega, fun before after => ?_⟩
        exact describes_quoted.mpr ⟨body, rfl, described _ _⟩
      · cases found

theorem fractionExtent_append {c : Char} {others : List Char} (first : c ∈ digits)
    (inside : ∀ d ∈ others, d ∈ digits) (rest : List Char) :
    others.length + 2 ≤ fractionExtent ('.' :: c :: others ++ rest) := by
  obtain ⟨size, found, bound⟩ := runExtent_append first inside rest
  simp only [List.cons_append] at found ⊢
  simp only [fractionExtent, if_true, found]
  omega

/-- A text of the pattern that stands at the place is not longer than the preferred match. -/
theorem extent_of_describes {shape : Shape} {before after : Option Char} {lexeme : List Char}
    (described : shape.pattern.Describes before lexeme after) (rest : List Char) :
    ∃ size, shape.extent (lexeme ++ rest) = some size ∧ lexeme.length ≤ size := by
  -- What `rest` begins with may make the match longer, but never shorter.
  cases shape with
  | word first others =>
    rw [describes_word.mp described]
    exact ⟨others.length + 1, by simp [extent], Nat.le_refl _⟩
  | run head tail =>
    obtain ⟨c, others, rfl, first, inside⟩ := describes_run.mp described
    exact runExtent_append first inside rest
  | block members =>
    obtain ⟨filled, inside⟩ := describes_block.mp described
    cases lexeme with
    | nil => exact absurd rfl filled
    | cons c others =>
      exact runExtent_append (inside c List.mem_cons_self)
        (fun d member => inside d (List.mem_cons_of_mem c member)) rest
  | decimal =>
    obtain ⟨c, whole, part, rfl, first, inside, split⟩ := describes_decimal.mp described
    have digit : digits.contains '.' = false := by decide
    have more := takeWhile_of_mem inside (part ++ rest)
    have joined : c :: whole ++ part ++ rest = c :: (whole ++ (part ++ rest)) := by simp
    rw [joined]
    refine ⟨_, if_pos first, ?_⟩
    rcases split with rfl | ⟨d, others, rfl, start, tail⟩
    · simp only [more, List.length_append, List.length_cons, List.append_nil]
      omega
    · have fraction := fractionExtent_append start tail rest
      have stop : (whole ++ ('.' :: d :: others ++ rest)).dropWhile digits.contains =
          '.' :: d :: others ++ rest := by
        rw [List.dropWhile_append_of_pos fun c member => CharSet.mem_iff.mp (inside c member)]
        exact List.dropWhile_cons_of_neg (by simp [digit])
      rw [stop]
      simp only [more, List.length_append, List.length_cons] at fraction ⊢
      omega
  | quoted =>
    obtain ⟨body, rfl, inner⟩ := describes_quoted.mp described
    obtain ⟨size, found, bound⟩ := quotedExtent_append inner rest
    refine ⟨size + 1, ?_, by simp; omega⟩
    simp only [List.cons_append, List.append_assoc, List.nil_append, extent, if_true, found,
      Option.map_some]

theorem ne_nil_of_describes {shape : Shape} {before after : Option Char} {lexeme : List Char}
    (described : shape.pattern.Describes before lexeme after) : lexeme ≠ [] := by
  rintro rfl
  obtain ⟨size, found, _⟩ := extent_of_describes described []
  cases shape with
  | word first others => cases describes_word.mp described
  | run head tail => cases found
  | block members => cases found
  | decimal => cases found
  | quoted => cases found

end Shape

end Lexicon
