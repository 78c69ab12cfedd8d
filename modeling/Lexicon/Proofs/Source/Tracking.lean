import Lexicon.Proofs.Source.Newlines
import Lexicon.Source.LineTracker

/-! Line trackers against their source.

Main statements: an offset that is not before the last one gets the line that it has in the
source, and the tracker stays true to the source (`advance_of_tracks`). Whatever has been asked
before, in any order, an offset is refused only if it is before the furthest one answered, and
otherwise gets the line that it has in the source (`ask_after`).
-/

set_option autoImplicit false

namespace Lexicon.LineTracker

open Text

/-- What a tracker knows of its source. The part walked over may end behind the offset reached,
but no newline lies between the two. -/
structure Tracks (tracker : LineTracker) (text : List Char) : Prop where
  size : tracker.size = width text
  reached : tracker.reached ≤ tracker.size
  line : tracker.line = lineAt text tracker.reached
  walked : ∃ walked, text = walked ++ tracker.ahead ∧ tracker.aheadAt = width walked ∧
    tracker.reached ≤ width walked ∧ newlinesBefore text tracker.reached = walked.count '\n'

theorem tracks_ofText (text : List Char) : (ofText text).Tracks text where
  size := rfl
  reached := Nat.zero_le _
  line := rfl
  walked := ⟨[], rfl, rfl, Nat.le_refl 0, rfl⟩

theorem walk_spec (target line start : Nat) (text : List Char) :
    ∃ passed later, text = passed ++ later ∧
      walk target line start text = (line + passed.count '\n', start + width passed, later) ∧
      newlinesBefore text (target - start) = passed.count '\n' ∧
      (target ≤ start + width passed ∨ later = []) := by
  -- Line and offset are those of the place walked to so far.
  induction text generalizing line start with
  | nil => exact ⟨[], [], rfl, rfl, newlinesBefore_nil _, .inr rfl⟩
  | cons c rest ih =>
    unfold walk
    by_cases before : start < target
    · rw [if_pos before]
      obtain ⟨passed, later, split, walked, count, behind⟩ :=
        ih (if c = '\n' then line + 1 else line) (start + c.utf8Size)
      have own : (if c = '\n' then line + 1 else line) = line + [c].count '\n' := by
        by_cases newline : c = '\n' <;> simp [newline]
      have both : (c :: passed).count '\n' = [c].count '\n' + passed.count '\n' :=
        @List.count_append _ _ _ [c] passed
      refine ⟨c :: passed, later, by rw [split, List.cons_append], ?_, ?_, ?_⟩
      · rw [walked, own, both, width_cons, Nat.add_assoc, Nat.add_assoc]
      · rw [newlinesBefore_cons (by omega), Nat.sub_sub, count, both]
      · rw [width_cons, ← Nat.add_assoc]
        exact behind
    · rw [if_neg before]
      refine ⟨[], c :: rest, rfl, rfl, ?_, .inl (Nat.le_of_not_lt before)⟩
      rw [Nat.sub_eq_zero_of_le (Nat.le_of_not_lt before), newlinesBefore_zero, List.count_nil]

section Queries

variable {tracker : LineTracker} {text : List Char} {offset : Nat}

theorem Tracks.newlinesBefore_eq {walked ahead passed : List Char} {reached target : Nat}
    (order : reached ≤ target)
    (count : newlinesBefore (walked ++ ahead) reached = walked.count '\n')
    (crossed : newlinesBefore ahead (target - width walked) = passed.count '\n') :
    newlinesBefore (walked ++ ahead) target = walked.count '\n' + passed.count '\n' := by
  rcases Nat.le_total target (width walked) with inside | outside
  -- Nothing is passed, and between `reached` and the end of the part walked over is no newline.
  · rw [Nat.sub_eq_zero_of_le inside, newlinesBefore_zero] at crossed
    have least := newlinesBefore_mono (walked ++ ahead) order
    have most := newlinesBefore_mono (walked ++ ahead) inside
    rw [newlinesBefore_width] at most
    omega
  · obtain ⟨more, rfl⟩ := Nat.exists_eq_add_of_le outside
    rw [Nat.add_sub_cancel_left] at crossed
    rw [newlinesBefore_append, crossed]

theorem advance_of_tracks (tracks : tracker.Tracks text)
    (order : tracker.reached ≤ min offset (width text)) :
    ∃ next, tracker.advance offset = .ok (lineAt text (min offset (width text)), next) ∧
      next.Tracks text ∧ next.reached = min offset (width text) := by
  obtain ⟨walked, split, place, within, count⟩ := tracks.walked
  have size := tracks.size
  have line := tracks.line
  rw [← size] at order ⊢
  -- The end of the source is never passed, also when the walk comes to it.
  generalize aim : min offset tracker.size = target at order ⊢
  have bound : target ≤ tracker.size := aim ▸ Nat.min_le_right _ _
  obtain ⟨passed, later, rest, outcome, crossed, behind⟩ :=
    walk_spec target tracker.line tracker.aheadAt tracker.ahead
  rw [place] at crossed behind
  have whole : newlinesBefore text target = walked.count '\n' + passed.count '\n' := by
    rw [split] at count ⊢
    exact Tracks.newlinesBefore_eq order count crossed
  have number : tracker.line + passed.count '\n' = lineAt text target := by
    rw [line, lineAt, lineAt, count, whole]
    omega
  have joined : text = (walked ++ passed) ++ later := by
    rw [List.append_assoc, ← rest, ← split]
  refine ⟨⟨tracker.size, target, lineAt text target, width (walked ++ passed), later⟩, ?_, ?_, rfl⟩
  · unfold advance
    rw [aim, if_neg (Nat.not_lt.mpr order), outcome, place, number, width_append]
  · refine ⟨size, bound, rfl, walked ++ passed, joined, rfl, ?_, ?_⟩
    · rw [width_append]
      rcases behind with covered | rfl
      · exact covered
      · rw [size, joined, List.append_nil, width_append] at bound
        exact bound
    · rw [List.count_append]
      exact whole

theorem advance_of_passed (tracks : tracker.Tracks text)
    (passed : min offset (width text) < tracker.reached) :
    tracker.advance offset =
      .error (.backwardsQuery (min offset (width text)) tracker.reached) := by
  rw [← tracks.size] at passed ⊢
  unfold advance
  rw [if_pos passed]

end Queries

/-! ### Queries in any order -/

/-- The answer to a query and the tracker behind it. A query that is refused leaves the tracker as
it was. -/
def ask (tracker : LineTracker) (offset : Nat) : Except Crash Nat × LineTracker :=
  match tracker.advance offset with
  | .ok (line, next) => (.ok line, next)
  | .error crash => (.error crash, tracker)

def after (tracker : LineTracker) (history : List Nat) : LineTracker :=
  history.foldl (fun tracker offset => (tracker.ask offset).2) tracker

def answered (tracker : LineTracker) : List Nat → List Nat
  | [] => []
  | offset :: later =>
      match tracker.ask offset with
      | (.ok _, next) => offset :: next.answered later
      | (.error _, next) => next.answered later

section History

variable {tracker : LineTracker} {text : List Char} {offset : Nat}

theorem ask_of_passed (tracks : tracker.Tracks text)
    (passed : min offset (width text) < tracker.reached) :
    tracker.ask offset =
      (.error (.backwardsQuery (min offset (width text)) tracker.reached), tracker) := by
  simp only [ask, advance_of_passed tracks passed]

theorem ask_of_reached (tracks : tracker.Tracks text)
    (order : tracker.reached ≤ min offset (width text)) :
    ∃ next, tracker.ask offset = (.ok (lineAt text (min offset (width text))), next) ∧
      next.Tracks text ∧ next.reached = min offset (width text) := by
  obtain ⟨next, asked, later, moved⟩ := advance_of_tracks tracks order
  exact ⟨next, by simp only [ask, asked], later, moved⟩

theorem tracks_after (tracks : tracker.Tracks text) (history : List Nat) :
    (tracker.after history).Tracks text ∧
      (tracker.after history).reached =
        ((tracker.answered history).map (min · (width text))).foldl max tracker.reached := by
  -- The tracker is general, since each query is put to the one that the query before it has left.
  induction history generalizing tracker with
  | nil => exact ⟨tracks, rfl⟩
  | cons offset later ih =>
    rcases Nat.lt_or_ge (min offset (width text)) tracker.reached with passed | order
    · have asked := ask_of_passed tracks passed
      have rest := ih tracks
      simpa only [after, answered, List.foldl_cons, asked] using rest
    · obtain ⟨next, asked, nextTracks, moved⟩ := ask_of_reached tracks order
      have furthest : max tracker.reached (min offset (width text)) = next.reached := by
        rw [moved, Nat.max_eq_right order]
      have rest := ih nextTracks
      simpa only [after, answered, List.foldl_cons, asked, List.map_cons, furthest] using rest

end History

/-- A tracker that has been asked for any offsets, in any order, stands at the furthest of those it
has answered, on the line of that place. It refuses the offsets before that place, and this changes
nothing; to any other offset it gives the line that a new tracker gives. -/
theorem ask_after (text : List Char) (history : List Nat) (offset : Nat) :
    let tracker : LineTracker := after (ofText text) history
    let target := min offset (width text)
    tracker.reached = (((ofText text).answered history).map (min · (width text))).foldl max 0 ∧
    tracker.reached ≤ width text ∧
    tracker.line = newlinesBefore text tracker.reached + 1 ∧
    ((∃ crash next, tracker.ask offset = (.error crash, next)) ↔ target < tracker.reached) ∧
    (∀ crash next, tracker.ask offset = (.error crash, next) →
      crash = .backwardsQuery target tracker.reached ∧ next = tracker) ∧
    ∀ line next, tracker.ask offset = (.ok line, next) →
      line = newlinesBefore text target + 1 ∧ ((ofText text).ask offset).1 = .ok line := by
  intro tracker target
  obtain ⟨tracks, furthest⟩ := tracks_after (tracks_ofText text) history
  obtain ⟨_, fresh, -, -⟩ := ask_of_reached (tracks_ofText text) (Nat.zero_le target)
  refine ⟨furthest, tracks.size ▸ tracks.reached, tracks.line, ?_⟩
  rcases Nat.lt_or_ge target tracker.reached with passed | order
  · have asked : tracker.ask offset = _ := ask_of_passed tracks passed
    rw [asked]
    refine ⟨⟨fun _ => passed, fun _ => ⟨_, _, rfl⟩⟩, ?_, ?_⟩
    · rintro crash next ⟨⟩
      exact ⟨rfl, rfl⟩
    · rintro line next ⟨⟩
  · obtain ⟨_, asked, -, -⟩ := ask_of_reached tracks order
    change tracker.ask offset = _ at asked
    rw [asked]
    refine ⟨⟨?_, fun passed => absurd order (Nat.not_le.mpr passed)⟩, ?_, ?_⟩
    · rintro ⟨crash, next, ⟨⟩⟩
    · rintro crash next ⟨⟩
    · rintro line next ⟨⟩
      exact ⟨rfl, by rw [fresh]⟩

example : ((ofText "a\nb\n".toList).after [3, 100, 1]).answered [0, 4] = [4] := by decide

end Lexicon.LineTracker
