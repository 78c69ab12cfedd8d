import Lexicon.Pattern.Match

/-! The order of the matches in a text.

Main statement: whatever the pattern, its matches are parts of the text, and each of them starts
at or behind the end of the one before it (`allMatches_placed`).
-/

set_option autoImplicit false

namespace Lexicon

/-- The matches are parts of `rest`, from left to right and without overlap; `rest` stands
`offset` bytes behind the beginning of the text. -/
inductive Placed : Nat → List Char → List Match → Prop where
  | none {offset : Nat} {rest : List Char} : Placed offset rest []
  | next {offset : Nat} {skipped taken after : List Char} {groups : List String}
      {later : List Match} :
      Placed (offset + Text.width skipped + Text.width taken) after later →
      Placed offset (skipped ++ (taken ++ after))
        (⟨offset + Text.width skipped, offset + Text.width skipped + Text.width taken,
          String.ofList taken, groups⟩ :: later)

theorem Cursor.advance_offset (cursor : Cursor) (count : Nat) :
    (cursor.advance count).offset = cursor.offset + Text.width (cursor.rest.take count) := by
  induction count generalizing cursor with
  | zero => simp [advance]
  | succ more ih =>
    obtain ⟨before, offset, rest⟩ := cursor
    cases rest with
    | nil => simp [advance]
    | cons c rest =>
      rw [advance, ih]
      simp only [List.take_succ_cons, Text.width_cons]
      omega

theorem Cursor.advance_before (cursor : Cursor) (count : Nat) :
    (cursor.advance count).before = (cursor.rest.take count).getLast?.or cursor.before := by
  induction count generalizing cursor with
  | zero => simp [advance]
  | succ more ih =>
    obtain ⟨before, offset, rest⟩ := cursor
    cases rest with
    | nil => simp [advance]
    | cons c rest =>
      rw [advance, ih, List.take_succ_cons, List.getLast?_cons]
      cases (rest.take more).getLast? <;> rfl

theorem Placed.skip {offset : Nat} {skipped rest : List Char} {found : List Match}
    (placed : Placed (offset + Text.width skipped) rest found) :
    Placed offset (skipped ++ rest) found := by
  generalize same : offset + Text.width skipped = start at placed
  cases placed with
  | none => exact .none
  | @next _ more taken after groups later rest =>
    subst same
    have step := @Placed.next offset (skipped ++ more) taken after groups later
      (by simpa only [Text.width_append, Nat.add_assoc] using rest)
    simpa only [Text.width_append, Nat.add_assoc, List.append_assoc] using step

theorem Placed.of_advance {cursor : Cursor} {count : Nat} {found : List Match}
    (placed : Placed (cursor.advance count).offset (cursor.advance count).rest found) :
    Placed cursor.offset cursor.rest found := by
  rw [Cursor.advance_offset, Cursor.advance_rest] at placed
  have whole := placed.skip
  rwa [List.take_append_drop] at whole

theorem Placed.of_match {cursor : Cursor} {count : Nat} {groups : List String}
    {later : List Match}
    (placed : Placed (cursor.advance count).offset (cursor.advance count).rest later) :
    Placed cursor.offset cursor.rest
      (⟨cursor.offset, (cursor.advance count).offset, String.ofList (cursor.rest.take count),
        groups⟩ :: later) := by
  rw [Cursor.advance_offset, Cursor.advance_rest] at placed
  have step := @Placed.next cursor.offset [] (cursor.rest.take count) (cursor.rest.drop count)
    groups later (by simpa only [Text.width_nil, Nat.add_zero] using placed)
  rw [Cursor.advance_offset]
  simpa only [Text.width_nil, Nat.add_zero, List.nil_append, List.take_append_drop] using step

namespace Placed

variable {offset : Nat} {rest : List Char} {found : List Match}

theorem bounds (placed : Placed offset rest found) :
    ∀ one ∈ found, offset ≤ one.start ∧ one.start ≤ one.stop ∧
      one.stop ≤ offset + Text.width rest := by
  induction placed with
  | none => simp
  | next later ih =>
    intro one member
    simp only [Text.width_append]
    rcases List.mem_cons.mp member with rfl | member
    · dsimp only
      omega
    · have inside := ih one member
      omega

theorem pairwise (placed : Placed offset rest found) :
    found.Pairwise fun one other => one.stop ≤ other.start := by
  induction placed with
  | none => exact .nil
  | next later ih => exact .cons (fun other member => (later.bounds other member).1) ih

theorem slice (placed : Placed offset rest found) :
    ∀ one ∈ found, ∃ before after, rest = before ++ one.text.toList ++ after ∧
      one.start = offset + Text.width before ∧
      one.stop = one.start + Text.width one.text.toList := by
  induction placed with
  | none => simp
  | @next offset skipped taken after groups later behind ih =>
    intro one member
    rcases List.mem_cons.mp member with rfl | member
    · exact ⟨skipped, after, by simp, rfl, by simp⟩
    · obtain ⟨before, tail, split, start, stop⟩ := ih one member
      refine ⟨skipped ++ taken ++ before, tail, by simp [split], ?_, stop⟩
      rw [start, Text.width_append, Text.width_append]
      omega

end Placed

namespace Pattern

/-! ### The leftmost match -/

theorem searchFrom_spec (pattern : Pattern) (cursor : Cursor) (start : Nat) :
    match pattern.searchFrom cursor.before start cursor.rest with
    | none => ∀ count, pattern.matchHere? (cursor.advance count).before
        (cursor.advance count).rest = none
    | some (place, hit) => ∃ skipped, place = start + skipped ∧
        (∀ fewer < skipped, pattern.matchHere? (cursor.advance fewer).before
          (cursor.advance fewer).rest = none) ∧
        pattern.matchHere? (cursor.advance skipped).before (cursor.advance skipped).rest =
          some hit := by
  obtain ⟨before, offset, rest⟩ := cursor
  induction rest generalizing before offset start with
  | nil =>
    have still (count : Nat) :
        Cursor.advance ⟨before, offset, []⟩ count = ⟨before, offset, []⟩ := by
      cases count <;> rfl
    simp only [searchFrom, still]
    cases here : pattern.matchHere? before [] with
    | none => simp
    | some hit => exact ⟨0, rfl, by simp, rfl⟩
  | cons c rest ih =>
    simp only [searchFrom]
    cases here : pattern.matchHere? before (c :: rest) with
    | some hit => exact ⟨0, rfl, by simp, here⟩
    | none =>
      have later := ih (start + 1) (some c) (offset + c.utf8Size)
      cases found : pattern.searchFrom (some c) (start + 1) rest with
      | none =>
        simp only [found] at later ⊢
        intro count
        cases count with
        | zero => exact here
        | succ more => exact later more
      | some outcome =>
        obtain ⟨place, hit⟩ := outcome
        simp only [found] at later ⊢
        obtain ⟨skipped, same, ahead, first⟩ := later
        refine ⟨skipped + 1, by omega, fun fewer less => ?_, first⟩
        cases fewer with
        | zero => exact here
        | succ fewer => exact ahead fewer (by omega)

theorem search_none {pattern : Pattern} {cursor : Cursor} (none : pattern.search cursor = none)
    (count : Nat) :
    pattern.matchHere? (cursor.advance count).before (cursor.advance count).rest = .none := by
  have spec := searchFrom_spec pattern cursor 0
  rw [search] at none
  rw [none] at spec
  exact spec count

theorem search_leftmost {pattern : Pattern} {cursor : Cursor} {skipped : Nat} {hit : Hit}
    (found : pattern.search cursor = some (skipped, hit)) :
    (∀ fewer < skipped, pattern.matchHere? (cursor.advance fewer).before
      (cursor.advance fewer).rest = none) ∧
    pattern.matchHere? (cursor.advance skipped).before (cursor.advance skipped).rest =
      some hit := by
  have spec := searchFrom_spec pattern cursor 0
  rw [search] at found
  simp only [found, Nat.zero_add] at spec
  obtain ⟨_, rfl, leftmost⟩ := spec
  exact leftmost

/-! ### All matches -/

theorem matchesFrom_placed (pattern : Pattern) (cursor : Cursor) (barred : Bool)
    (found : List Match) :
    ∃ later, pattern.matchesFrom cursor barred found = found.reverse ++ later ∧
      Placed cursor.offset cursor.rest later := by
  -- By the steps of the search: it goes on at the end of a match, or one character further if it
  -- has come upon an empty match there.
  fun_induction matchesFrom pattern cursor barred found with
  | case1 cursor barred found => exact ⟨[], by simp, .none⟩
  | case2 cursor barred found => exact ⟨[], by simp, .none⟩
  | case3 cursor barred found skipped hit outcome repeated head tail ahead ih =>
    obtain ⟨later, whole, placed⟩ := ih
    exact ⟨later, whole, placed.of_advance⟩
  | case4 cursor barred found skipped hit outcome free start stop text ih =>
    obtain ⟨later, whole, placed⟩ := ih
    refine ⟨⟨start.offset, stop.offset, text, hit.groups⟩ :: later, ?_, ?_⟩
    · rw [whole, List.reverse_cons, List.append_assoc]
      rfl
    · exact placed.of_match.of_advance

theorem allMatches_placed (pattern : Pattern) (text : List Char) :
    Placed 0 text (pattern.allMatches text) := by
  obtain ⟨later, whole, placed⟩ := matchesFrom_placed pattern (.ofText text) false []
  rw [allMatches, whole]
  exact placed

theorem matchesFrom_groups (pattern : Pattern) (cursor : Cursor) (barred : Bool)
    (found : List Match) : ∀ one ∈ pattern.matchesFrom cursor barred found,
    one ∈ found ∨ ∃ before text hit, pattern.matchHere? before text = some hit ∧
      one.groups = hit.groups := by
  fun_induction matchesFrom pattern cursor barred found with
  | case1 => exact fun one member => .inl (List.mem_reverse.mp member)
  | case2 => exact fun one member => .inl (List.mem_reverse.mp member)
  | case3 cursor barred found skipped hit outcome repeated head tail ahead ih => exact ih
  | case4 cursor barred found skipped hit outcome free start stop text ih =>
    intro one member
    rcases ih one member with member | later
    · rcases List.mem_cons.mp member with rfl | earlier
      · exact .inr ⟨_, _, hit, (search_leftmost outcome).2, rfl⟩
      · exact .inl earlier
    · exact .inr later

theorem groups_of_allMatches {pattern : Pattern} {text : List Char} {one : Match}
    (member : one ∈ pattern.allMatches text) :
    ∃ before rest hit, pattern.matchHere? before rest = some hit ∧ one.groups = hit.groups := by
  rcases matchesFrom_groups pattern _ _ _ one member with none | here
  · cases none
  · exact here

end Pattern

end Lexicon
