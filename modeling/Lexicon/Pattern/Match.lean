import Lexicon.Pattern.Thread
import Lexicon.Text.Width

/-! All matches of a pattern in a text, from left to right and without overlap.

Every place is judged in the whole text: a pattern may look at the character before the
place where its search starts.
-/

set_option autoImplicit false

namespace Lexicon

/-- A place in a text; `offset` is the number of bytes before it. -/
structure Cursor where
  before : Option Char
  offset : Nat
  rest : List Char
  deriving DecidableEq, Repr

namespace Cursor

def ofText (text : List Char) : Cursor := ⟨none, 0, text⟩

def advance (cursor : Cursor) : Nat → Cursor
  | 0 => cursor
  | more + 1 =>
      match cursor with
      | ⟨_, offset, c :: rest⟩ => advance ⟨some c, offset + c.utf8Size, rest⟩ more
      | ⟨before, offset, []⟩ => ⟨before, offset, []⟩

@[simp] theorem advance_rest (cursor : Cursor) (count : Nat) :
    (cursor.advance count).rest = cursor.rest.drop count := by
  induction count generalizing cursor with
  | zero => rfl
  | succ more ih =>
    obtain ⟨before, offset, rest⟩ := cursor
    cases rest with
    | nil => rfl
    | cons c rest => exact ih _

end Cursor

/-- The part of a text that a pattern matched; `start` and `stop` count bytes. -/
structure Match where
  start : Nat
  stop : Nat
  text : String
  groups : List String
  deriving DecidableEq, Repr

namespace Pattern

/-- The leftmost place with a match: the number of characters before it, and the match. -/
def searchFrom (pattern : Pattern) (before : Option Char) (skipped : Nat) :
    List Char → Option (Nat × Hit)
  | [] => (pattern.matchHere? before []).map (skipped, ·)
  | c :: rest =>
      match pattern.matchHere? before (c :: rest) with
      | some hit => some (skipped, hit)
      | none => pattern.searchFrom (some c) (skipped + 1) rest

def search (pattern : Pattern) (cursor : Cursor) : Option (Nat × Hit) :=
  pattern.searchFrom cursor.before 0 cursor.rest

theorem searchFrom_bounds {pattern : Pattern} {before : Option Char} {start skipped : Nat}
    {text : List Char} {hit : Hit}
    (found : pattern.searchFrom before start text = some (skipped, hit)) :
    start ≤ skipped ∧ skipped + hit.taken ≤ start + text.length := by
  induction text generalizing before start with
  | nil =>
    simp only [searchFrom, Option.map_eq_some_iff, Prod.mk.injEq] at found
    obtain ⟨_, here, rfl, rfl⟩ := found
    have bound := matchHere?_taken here
    omega
  | cons c rest ih =>
    simp only [searchFrom] at found
    split at found
    · next here =>
      cases found
      have bound := matchHere?_taken here
      omega
    · have bounds := ih found
      simp only [List.length_cons]
      omega

theorem search_bound {pattern : Pattern} {cursor : Cursor} {skipped : Nat} {hit : Hit}
    (found : pattern.search cursor = some (skipped, hit)) :
    skipped + hit.taken ≤ cursor.rest.length := by
  have bounds := searchFrom_bounds found
  omega

/-- The matches from a place on, after those in `found`. No empty match is reported at a
`barred` place, which is where the match before it ended: the search goes on one character
further. -/
def matchesFrom (pattern : Pattern) (cursor : Cursor) (barred : Bool) (found : List Match) :
    List Match :=
  match _outcome : pattern.search cursor with
  | none => found.reverse
  | some (skipped, hit) =>
      if _repeated : barred = true ∧ skipped + hit.taken = 0 then
        match _ahead : cursor.rest with
        | [] => found.reverse
        | _ :: _ => pattern.matchesFrom (cursor.advance 1) false found
      else
        let start := cursor.advance skipped
        let stop := start.advance hit.taken
        let text := String.ofList (start.rest.take hit.taken)
        pattern.matchesFrom stop true (⟨start.offset, stop.offset, text, hit.groups⟩ :: found)
termination_by 2 * cursor.rest.length + (if barred then 0 else 1)
decreasing_by
  · simp only [Cursor.advance_rest, List.length_drop, _ahead, List.length_cons, _repeated.1]
    simp only [if_true, if_false]
    omega
  · have bound := search_bound _outcome
    simp only [Cursor.advance_rest, List.length_drop, if_true]
    by_cases moved : skipped + hit.taken = 0
    · have free : barred = false := by
        cases barred with
        | true => exact absurd ⟨rfl, moved⟩ _repeated
        | false => rfl
      subst free
      simp only [Bool.false_eq_true, if_false]
      omega
    · omega

def allMatches (pattern : Pattern) (text : List Char) : List Match :=
  pattern.matchesFrom (Cursor.ofText text) false []

def occursIn (pattern : Pattern) (text : List Char) : Bool :=
  (pattern.search (Cursor.ofText text)).isSome

end Pattern

end Lexicon
