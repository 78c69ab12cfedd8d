import Lexicon.Event
import Lexicon.Proofs.Scan.Segments

/-! What a scan keeps of its source.

The lexemes that a scan reports stand in the source one behind the other, and all that stands
between them is white space (`woven_of_lexical`). This holds up to the end of the source or up to
the failure.
-/

set_option autoImplicit false

namespace Lexicon

open Text Vocabulary

def Event.token? : Event → Option Token
  | .token found => some found
  | _ => none

def Scan.reported (scan : Scan) (source : String) : List Token :=
  (scan.events source).filterMap Event.token?

theorem Scan.reported_eq (scan : Scan) (source : String) : scan.reported source = scan.tokens := by
  have tokens : (scan.tokens.map Event.token).filterMap Event.token? = scan.tokens := by
    rw [List.filterMap_map]
    exact congrFun List.filterMap_some_fun scan.tokens
  unfold reported events
  rw [List.filterMap_cons_none rfl, List.filterMap_append, tokens]
  cases scan.failure <;> exact List.append_nil _

/-- Gaps and lexemes in turn, from the first gap to the last one. -/
def weave : List (List Char) → List (List Char) → List Char
  | gap :: gaps, lexeme :: lexemes => gap ++ (lexeme ++ weave gaps lexemes)
  | gaps, lexemes => gaps.flatten ++ lexemes.flatten

/-- White space that makes a text of some lexemes. -/
structure Gaps (text : List Char) (lexemes gaps : List (List Char)) : Prop where
  count : gaps.length = lexemes.length + 1
  blank : ∀ gap ∈ gaps, ∀ c ∈ gap, IsSpace c
  woven : weave gaps lexemes = text

/-- Lexemes that make up a text, but for white space around them. -/
structure Woven (text : List Char) (lexemes : List (List Char)) : Prop where
  starts : ∀ lexeme ∈ lexemes, ∃ c rest, lexeme = c :: rest ∧ ¬ IsSpace c
  gaps : ∃! gaps, Gaps text lexemes gaps

theorem weave_append (left gap : List Char) (gaps lexemes : List (List Char)) :
    weave ((left ++ gap) :: gaps) lexemes = left ++ weave (gap :: gaps) lexemes := by
  cases lexemes with
  | nil => simp only [weave, List.flatten_cons, List.append_assoc]
  | cons lexeme lexemes => simp only [weave, List.append_assoc]

example : weave [[' '], [], ['\n']] [['a'], [':', '=']] = " a:=\n".toList := rfl

namespace Gaps

variable {text : List Char} {lexemes gaps others : List (List Char)}

theorem nil : Gaps [] [] [[]] := ⟨rfl, by simp, rfl⟩

theorem blank_append {space : List Char} (inside : ∀ c ∈ space, IsSpace c)
    (split : Gaps text lexemes gaps) : ∃ gaps, Gaps (space ++ text) lexemes gaps := by
  cases gaps with
  | nil => cases split.count
  | cons gap gaps =>
    refine ⟨(space ++ gap) :: gaps, split.count, ?_, ?_⟩
    · intro one member c listed
      rcases List.mem_cons.mp member with rfl | member
      · rcases List.mem_append.mp listed with front | back
        · exact inside c front
        · exact split.blank gap List.mem_cons_self c back
      · exact split.blank one (List.mem_cons_of_mem gap member) c listed
    · rw [weave_append, split.woven]

theorem lexeme_append (lexeme : List Char) (split : Gaps text lexemes gaps) :
    Gaps (lexeme ++ text) (lexeme :: lexemes) ([] :: gaps) where
  count := by rw [List.length_cons, split.count, List.length_cons]
  blank := List.forall_mem_cons.mpr ⟨by simp, split.blank⟩
  woven := by rw [weave, List.nil_append, split.woven]

theorem tail {gap lexeme : List Char}
    (split : Gaps text (lexeme :: lexemes) (gap :: gaps)) {rest : List Char}
    (same : weave gaps lexemes = rest) : Gaps rest lexemes gaps where
  count := Nat.succ.inj split.count
  blank := fun one member => split.blank one (List.mem_cons_of_mem gap member)
  woven := same

theorem unique (starts : ∀ lexeme ∈ lexemes, ∃ c rest, lexeme = c :: rest ∧ ¬ IsSpace c)
    (split : Gaps text lexemes gaps) (other : Gaps text lexemes others) : gaps = others := by
  induction lexemes generalizing text gaps others with
  | nil =>
    obtain ⟨gap, rfl⟩ := List.length_eq_one_iff.mp split.count
    obtain ⟨twin, rfl⟩ := List.length_eq_one_iff.mp other.count
    have same := split.woven.trans other.woven.symm
    simpa [weave] using same
  | cons lexeme lexemes ih =>
    cases gaps with
    | nil => cases split.count
    | cons gap gaps =>
      cases others with
      | nil => cases other.count
      | cons twin others =>
        obtain ⟨c, rest, rfl, start⟩ := starts lexeme List.mem_cons_self
        have same := split.woven.trans other.woven.symm
        rw [weave, weave] at same
        have stop (tail : List Char) : ∀ d, (c :: rest ++ tail).head? = some d → ¬ IsSpace d := by
          rintro d head
          cases head
          exact start
        -- Both gaps are the spaces before the first character of the lexeme.
        have first : gap = twin := eq_of_runs same (split.blank gap List.mem_cons_self) (stop _)
          (other.blank twin List.mem_cons_self) (stop _)
        subst first
        have tails := List.append_cancel_left (List.append_cancel_left same)
        rw [ih (fun one member => starts one (List.mem_cons_of_mem _ member))
          (split.tail rfl) (other.tail tails.symm)]

end Gaps

theorem gaps_of_lexical {parts : List Segment}
    (lexical : ∀ segment ∈ parts, segment.isLexical = true)
    (sound : ∀ segment ∈ parts, Spells segment.role segment.text) (place : Position) :
    ∃ gaps, Gaps (parts.flatMap Segment.text)
      ((Scan.ofSegments place parts).tokens.map fun token => token.lexeme.toList) gaps := by
  induction parts generalizing place with
  | nil => exact ⟨_, Gaps.nil⟩
  | cons segment rest ih =>
    have goesOn := lexical segment List.mem_cons_self
    have spelled := sound segment List.mem_cons_self
    obtain ⟨gaps, split⟩ := ih (fun other member => lexical other (List.mem_cons_of_mem _ member))
      (fun other member => sound other (List.mem_cons_of_mem _ member))
      (place.behind segment.text)
    obtain ⟨role, text⟩ := segment
    rw [List.flatMap_cons]
    cases role with
    | whitespace => exact split.blank_append (spells_whitespace_iff.mp spelled).2
    | anythingElse => cases goesOn
    | token kind =>
      refine ⟨[] :: gaps, ?_⟩
      simp only [Scan.ofSegments, List.map_cons, Position.token, String.toList_ofList]
      exact split.lexeme_append text

theorem starts_of_lexical {parts : List Segment}
    (sound : ∀ segment ∈ parts, segment.text ≠ [] ∧ Spells segment.role segment.text)
    (place : Position) : ∀ token ∈ (Scan.ofSegments place parts).tokens,
      ∃ c rest, token.lexeme.toList = c :: rest ∧ ¬ IsSpace c := by
  induction parts generalizing place with
  | nil => simp [Scan.ofSegments]
  | cons segment rest ih =>
    obtain ⟨filled, spelled⟩ := sound segment List.mem_cons_self
    have later := ih (fun other member => sound other (List.mem_cons_of_mem _ member))
      (place.behind segment.text)
    obtain ⟨role, text⟩ := segment
    cases role with
    | whitespace => exact later
    | anythingElse => simp [Scan.ofSegments]
    | token kind =>
      intro token member
      rcases List.mem_cons.mp member with rfl | member
      · obtain ⟨c, others, rfl⟩ := List.exists_cons_of_ne_nil filled
        exact ⟨c, others, String.toList_ofList, spelled.start⟩
      · exact later token member

theorem woven_of_lexical {parts : List Segment}
    (lexical : ∀ segment ∈ parts, segment.isLexical = true)
    (sound : ∀ segment ∈ parts, segment.text ≠ [] ∧ Spells segment.role segment.text)
    (place : Position) :
    Woven (parts.flatMap Segment.text)
      ((Scan.ofSegments place parts).tokens.map fun token => token.lexeme.toList) := by
  have starts : ∀ lexeme ∈ (Scan.ofSegments place parts).tokens.map
      fun token => token.lexeme.toList, ∃ c rest, lexeme = c :: rest ∧ ¬ IsSpace c := by
    intro lexeme member
    obtain ⟨token, listed, rfl⟩ := List.mem_map.mp member
    exact starts_of_lexical sound place token listed
  obtain ⟨gaps, split⟩ := gaps_of_lexical lexical (fun one member => (sound one member).2) place
  exact ⟨starts, gaps, split, fun other again => again.unique starts split⟩

/-- The reported lexemes and the white space between them are the source, or if the scan fails
they are what stands before the unexpected text. -/
theorem scan_lossless (source : String) :
    ∃ scan, Lexicon.scan source = .ok scan ∧ tokenize source = .ok scan.result ∧
      match scan.result with
      | .ok tokens => scan.reported source = tokens ∧
          Woven source.toList (tokens.map fun token => token.lexeme.toList)
      | .error failure => ∃ before run rest, source.toList = before ++ (run ++ rest) ∧
          run ≠ [] ∧ failure.cause = .unexpectedSymbol (String.ofList run) ∧
          failure.position.offset = width before ∧
          Woven before ((scan.reported source).map fun token => token.lexeme.toList) := by
  refine ⟨_, scan_eq_ofSegments source, tokenize_eq source, ?_⟩
  have text := flatMap_segments source.toList
  have sound : ∀ segment ∈ segments source.toList,
      segment.text ≠ [] ∧ Spells segment.role segment.text := fun segment => spells_of_segment
  rw [Scan.reported_eq]
  obtain ⟨front, later, split, lexical, stop⟩ := Scan.lexical_split (segments source.toList)
  rw [split] at text sound ⊢
  have woven := woven_of_lexical lexical
    (fun one member => sound one (List.mem_append_left later member)) .first
  -- Either all segments are passed, or the first one that is not gives the failure.
  rcases stop with rfl | ⟨run, rest, rfl⟩
  · rw [List.append_nil] at text ⊢
    rw [text] at woven
    rw [Scan.result, Scan.failure_of_lexical lexical]
    exact ⟨rfl, woven⟩
  · have filled := (sound _ (List.mem_append_right front List.mem_cons_self)).1
    rw [List.flatMap_append, List.flatMap_cons] at text
    rw [Scan.ofSegments_append lexical]
    simp only [Scan.ofSegments, Scan.result, List.append_nil]
    exact ⟨_, run, _, text.symm, filled, rfl, Nat.zero_add _, woven⟩

end Lexicon
