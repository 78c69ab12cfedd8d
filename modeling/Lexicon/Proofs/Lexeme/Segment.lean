import Lexicon.Proofs.Lexeme.Longest
import Lexicon.Proofs.Pattern.Sequence

/-! Texts as rows of segments.

The standard matcher leaves nothing of a text out: the matches are the segments that the first
rows give, one behind the other (`allMatches_eq_layout`).
-/

set_option autoImplicit false

namespace Lexicon

open Text

/-- A part of a text and what it is taken for. -/
structure Segment where
  role : Role
  text : List Char
  deriving DecidableEq, Repr

def Segment.isLexical (segment : Segment) : Bool := segment.role != .anythingElse

namespace Vocabulary

theorem shorter_of_firstRow? {row : Row} {text : List Char} {size : Nat}
    (found : firstRow? standardRows text = some (row, size)) :
    (text.drop size).length < text.length := by
  obtain ⟨bound, filled, _⟩ := described_of_firstRow? found
  have positive : size ≠ 0 := by
    rintro rfl
    exact filled rfl
  rw [List.length_drop]
  omega

/-- The segments of a text: each is the match of the first row that has one. -/
def segments (text : List Char) : List Segment :=
  match _found : firstRow? standardRows text with
  | none => []
  | some (row, size) => ⟨row.role, text.take size⟩ :: segments (text.drop size)
termination_by text.length
decreasing_by exact shorter_of_firstRow? _found

theorem firstRow?_nil : firstRow? standardRows [] = none := by
  cases found : firstRow? standardRows [] with
  | none => rfl
  | some first => exact absurd List.take_nil (described_of_firstRow? found).2.1

theorem eq_nil_of_firstRow? {text : List Char} (none : firstRow? standardRows text = none) :
    text = [] := by
  refine Classical.byContradiction fun filled => ?_
  obtain ⟨row, size, found⟩ := firstRow?_total filled
  rw [none] at found
  cases found

theorem segments_nil : segments [] = [] := by
  rw [segments]
  split
  · rfl
  · next row size found =>
    rw [firstRow?_nil] at found
    cases found

theorem segments_of_firstRow? {row : Row} {text : List Char} {size : Nat}
    (found : firstRow? standardRows text = some (row, size)) :
    segments text = ⟨row.role, text.take size⟩ :: segments (text.drop size) := by
  rw [segments]
  split
  · next none =>
    rw [found] at none
    cases none
  · next again =>
    rw [found] at again
    cases again
    rfl

theorem flatMap_segments (text : List Char) : (segments text).flatMap Segment.text = text := by
  fun_induction segments text with
  | case1 text none => exact (eq_nil_of_firstRow? none).symm
  | case2 text row size found ih => rw [List.flatMap_cons, ih, List.take_append_drop]

theorem spells_of_segment {text : List Char} {segment : Segment}
    (member : segment ∈ segments text) :
    segment.text ≠ [] ∧ Spells segment.role segment.text := by
  fun_induction segments text with
  | case1 => cases member
  | case2 text row size found ih =>
    rcases List.mem_cons.mp member with rfl | member
    · exact ⟨(described_of_firstRow? found).2.1, spells_of_firstRow? found⟩
    · exact ih member

theorem segments_of_longest {role : Role} {lexeme rest : List Char}
    (longest : Longest (lexeme ++ rest) lexeme) (lexical : role ≠ .anythingElse)
    (spelled : Spells role lexeme) :
    segments (lexeme ++ rest) = ⟨role, lexeme⟩ :: segments rest := by
  obtain ⟨row, found, keeps, own⟩ := longest.firstRow?
  rw [segments_of_firstRow? found, List.take_left, List.drop_left,
    longest.role_unique lexical spelled keeps own]

theorem segments_eq_cons {text : List Char} {segment : Segment} {rest : List Segment}
    (parts : segments text = segment :: rest) :
    ∃ later, text = segment.text ++ later ∧ segments later = rest ∧
      (segment.isLexical = true → Longest text segment.text ∧ Spells segment.role segment.text) := by
  cases found : firstRow? standardRows text with
  | none =>
    rw [eq_nil_of_firstRow? found, segments_nil] at parts
    cases parts
  | some first =>
    obtain ⟨row, size⟩ := first
    rw [segments_of_firstRow? found] at parts
    cases parts
    exact ⟨text.drop size, (List.take_append_drop size text).symm, rfl, fun lexical =>
      ⟨longest_of_firstRow? found (bne_iff_ne.mp lexical), spells_of_firstRow? found⟩⟩

theorem stuck_of_segments {text run : List Char} {rest : List Segment}
    (parts : segments text = ⟨.anythingElse, run⟩ :: rest) :
    (∀ lexeme, lexeme <+: text → ¬ IsLexeme lexeme) ∧ (∀ c ∈ run, ¬ IsSpace c) ∧
      ∀ c, (rest.flatMap Segment.text).head? = some c → IsSpace c := by
  cases found : firstRow? standardRows text with
  | none =>
    rw [eq_nil_of_firstRow? found, segments_nil] at parts
    cases parts
  | some first =>
    obtain ⟨row, size⟩ := first
    rw [segments_of_firstRow? found] at parts
    obtain ⟨own, rfl⟩ := List.cons.inj parts
    obtain ⟨otherwise, rfl⟩ := Segment.mk.inj own
    obtain ⟨solid, stop⟩ := run_of_firstRow? found otherwise
    rw [flatMap_segments]
    exact ⟨fun lexeme => not_isLexeme_of_firstRow? found otherwise, solid, stop⟩

section Cuts

variable {front back : List Segment} {text : List Char}

theorem segments_back (parts : segments text = front ++ back) :
    segments (back.flatMap Segment.text) = back := by
  induction front generalizing text with
  | nil =>
    rw [List.nil_append] at parts
    rw [← parts, flatMap_segments]
  | cons segment front ih =>
    obtain ⟨later, _, rest, _⟩ := segments_eq_cons parts
    exact ih rest

/-- Nothing changes in front of a cut between two segments. What a lexeme could be longer without
the cut, it could be in the whole text already. -/
theorem segments_front (parts : segments text = front ++ back)
    (lexical : ∀ segment ∈ front, segment.isLexical = true) :
    segments (front.flatMap Segment.text) = front := by
  induction front generalizing text with
  | nil => exact segments_nil
  | cons segment front ih =>
    rw [List.cons_append] at parts
    obtain ⟨later, split, rest, first⟩ := segments_eq_cons parts
    obtain ⟨longest, spelled⟩ := first (lexical segment List.mem_cons_self)
    have whole := flatMap_segments later
    rw [rest, List.flatMap_append] at whole
    -- The lexeme and what is left of the text behind it are still a beginning of the text.
    have cut : segment.text ++ front.flatMap Segment.text <+: text :=
      ⟨back.flatMap Segment.text, by rw [split, ← whole, List.append_assoc]⟩
    rw [List.flatMap_cons,
      segments_of_longest (longest.of_prefix (List.prefix_append _ _) cut)
        (bne_iff_ne.mp (lexical segment List.mem_cons_self)) spelled,
      ih rest fun other member => lexical other (List.mem_cons_of_mem segment member)]

end Cuts

theorem eq_of_runs {Item : Type} {member : Item → Prop} {left right other rest : List Item}
    (same : left ++ right = other ++ rest) (inside : ∀ item ∈ left, member item)
    (stop : ∀ item, right.head? = some item → ¬ member item)
    (otherInside : ∀ item ∈ other, member item)
    (otherStop : ∀ item, rest.head? = some item → ¬ member item) : left = other := by
  induction left generalizing other with
  | nil =>
    cases other with
    | nil => rfl
    | cons item others =>
      rw [List.nil_append] at same
      subst same
      exact absurd (otherInside item List.mem_cons_self) (stop item rfl)
  | cons item left ih =>
    cases other with
    | nil =>
      rw [List.nil_append] at same
      subst same
      exact absurd (inside item List.mem_cons_self) (otherStop item rfl)
    | cons first others =>
      obtain ⟨rfl, tail⟩ := List.cons.inj same
      rw [ih tail (fun one listed => inside one (List.mem_cons_of_mem _ listed))
        (fun one listed => otherInside one (List.mem_cons_of_mem _ listed))]

theorem segments_of_stuck {run rest : List Char} (filled : run ++ rest ≠ [])
    (stuck : ∀ lexeme, lexeme ≠ [] → lexeme <+: run ++ rest → ¬ IsLexeme lexeme)
    (inside : ∀ c ∈ run, ¬ IsSpace c) (stop : ∀ c, rest.head? = some c → IsSpace c) :
    segments (run ++ rest) = ⟨.anythingElse, run⟩ :: segments rest := by
  obtain ⟨row, size, found⟩ := firstRow?_total filled
  have otherwise : row.role = .anythingElse := Classical.byContradiction fun lexical =>
    stuck _ (described_of_firstRow? found).2.1 (List.take_prefix _ _)
      ⟨row.role, lexical, spells_of_firstRow? found⟩
  -- Two runs without spaces that both stop at a space or at the end are one run.
  obtain ⟨own, ownStop⟩ := run_of_firstRow? found otherwise
  have split := List.take_append_drop size (run ++ rest)
  have same : (run ++ rest).take size = run := eq_of_runs split own
    (fun c head space => space (ownStop c head)) inside (fun c head space => space (stop c head))
  have behind : (run ++ rest).drop size = rest := by
    rw [same] at split
    exact List.append_cancel_left split
  rw [segments_of_firstRow? found, otherwise, same, behind]

def layout (offset : Nat) : List Segment → List Match
  | [] => []
  | segment :: rest =>
      let stop := offset + width segment.text
      ⟨offset, stop, String.ofList segment.text, [segment.role.name]⟩ :: layout stop rest

theorem search_standard {row : Row} {cursor : Cursor} {size : Nat}
    (found : firstRow? standardRows cursor.rest = some (row, size)) :
    (matcherOf standardRows).search cursor = some (0, ⟨size, [row.role.name]⟩) := by
  have here : (matcherOf standardRows).matchHere? cursor.before cursor.rest =
      some ⟨size, [row.role.name]⟩ := by
    rw [matcherOf_matchHere?, found]
    rfl
  unfold Pattern.search
  cases rest : cursor.rest with
  | nil =>
    rw [rest, firstRow?_nil] at found
    cases found
  | cons c text =>
    rw [rest] at here
    simp only [Pattern.searchFrom, here]

theorem search_standard_end {cursor : Cursor} (finished : cursor.rest = []) :
    (matcherOf standardRows).search cursor = none := by
  rw [Pattern.search, finished, Pattern.searchFrom, matcherOf_matchHere?, firstRow?_nil]
  rfl

theorem firstRow?_of_search {cursor : Cursor} {skipped : Nat} {hit : Pattern.Hit}
    (outcome : (matcherOf standardRows).search cursor = some (skipped, hit)) :
    ∃ row, firstRow? standardRows cursor.rest = some (row, hit.taken) ∧ skipped = 0 ∧
      hit.taken ≠ 0 ∧ hit.groups = [row.role.name] := by
  cases found : firstRow? standardRows cursor.rest with
  | none =>
    rw [search_standard_end (eq_nil_of_firstRow? found)] at outcome
    cases outcome
  | some first =>
    obtain ⟨row, size⟩ := first
    rw [search_standard found] at outcome
    cases outcome
    refine ⟨row, rfl, rfl, ?_, rfl⟩
    rintro rfl
    exact (described_of_firstRow? found).2.1 rfl

theorem matchesFrom_standard (cursor : Cursor) (barred : Bool) (earlier : List Match) :
    (matcherOf standardRows).matchesFrom cursor barred earlier =
      earlier.reverse ++ layout cursor.offset (segments cursor.rest) := by
  generalize same : matcherOf standardRows = pattern
  -- No match is empty, so the cases of a search that is repeated do not occur.
  fun_induction pattern.matchesFrom cursor barred earlier with
  | case1 cursor barred earlier outcome =>
    subst same
    cases found : firstRow? standardRows cursor.rest with
    | none => rw [eq_nil_of_firstRow? found, segments_nil, layout, List.append_nil]
    | some first =>
      rw [search_standard found] at outcome
      cases outcome
  | case2 cursor barred earlier skipped hit outcome repeated =>
    subst same
    obtain ⟨row, found, rfl, filled, groups⟩ := firstRow?_of_search outcome
    exact absurd (Nat.add_eq_zero_iff.mp repeated.2).2 filled
  | case3 cursor barred earlier skipped hit outcome repeated =>
    subst same
    obtain ⟨row, found, rfl, filled, groups⟩ := firstRow?_of_search outcome
    exact absurd (Nat.add_eq_zero_iff.mp repeated.2).2 filled
  | case4 cursor barred earlier skipped hit outcome free start stop text ih =>
    subst same
    obtain ⟨row, found, rfl, filled, groups⟩ := firstRow?_of_search outcome
    have behind : stop.offset = cursor.offset + width (cursor.rest.take hit.taken) :=
      Cursor.advance_offset cursor hit.taken
    have later : stop.rest = cursor.rest.drop hit.taken := Cursor.advance_rest cursor hit.taken
    rw [ih, segments_of_firstRow? found, layout, behind, later, groups]
    simp only [List.reverse_cons, List.append_assoc, List.singleton_append]
    rfl

theorem allMatches_eq_layout (text : List Char) :
    (matcherOf standardRows).allMatches text = layout 0 (segments text) :=
  matchesFrom_standard (.ofText text) false []

end Vocabulary

end Lexicon
