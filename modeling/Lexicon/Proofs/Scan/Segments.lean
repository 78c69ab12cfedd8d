import Lexicon.Proofs.Lexeme.Segment
import Lexicon.Proofs.Scan.Matches

/-! Scans of the language, segment by segment.

A scan is a walk over the segments of its source with a place that is moved on by each of them
(`scan_eq_ofSegments`). Line numbers then need no look at the text before.
-/

set_option autoImplicit false

namespace Lexicon

open Text

namespace Position

def first : Position := ⟨0, 1⟩

def behind (place : Position) (text : List Char) : Position :=
  ⟨place.offset + width text, place.line + text.count '\n'⟩

@[simp] theorem behind_nil (place : Position) : place.behind [] = place := rfl

@[simp] theorem behind_append (place : Position) (left right : List Char) :
    place.behind (left ++ right) = (place.behind left).behind right := by
  simp [behind, Nat.add_assoc]

theorem first_behind (left right : List Char) :
    first.behind left = ⟨width left, lineAt (left ++ right) (width left)⟩ := by
  simp [first, behind, lineAt, newlinesBefore_width, Nat.add_comm]

/-- The token of a text at a place; an identifier may be a keyword. -/
def token (place : Position) (kind : Kind) (text : List Char) : Token :=
  let lexeme := String.ofList text
  ⟨if kind = .identifier then Vocabulary.ofStandardRows.resolve lexeme else kind, lexeme, place.line⟩

end Position

namespace Scan

def ofSegments (place : Position) : List Segment → Scan
  | [] => ⟨[], none⟩
  | ⟨.whitespace, text⟩ :: rest => ofSegments (place.behind text) rest
  | ⟨.anythingElse, text⟩ :: _ => ⟨[], some ⟨.unexpectedSymbol (String.ofList text), place⟩⟩
  | ⟨.token kind, text⟩ :: rest =>
      let later := ofSegments (place.behind text) rest
      ⟨place.token kind text :: later.tokens, later.failure⟩

section Lexical

variable {front : List Segment}

theorem ofSegments_append (lexical : ∀ segment ∈ front, segment.isLexical = true)
    (place : Position) (later : List Segment) :
    ofSegments place (front ++ later) =
      ⟨(ofSegments place front).tokens ++
          (ofSegments (place.behind (front.flatMap Segment.text)) later).tokens,
        (ofSegments (place.behind (front.flatMap Segment.text)) later).failure⟩ := by
  induction front generalizing place with
  | nil => rfl
  | cons segment rest ih =>
    have step := ih fun other member => lexical other (List.mem_cons_of_mem segment member)
    have goesOn := lexical segment List.mem_cons_self
    obtain ⟨role, text⟩ := segment
    rw [List.cons_append, List.flatMap_cons, Position.behind_append]
    cases role with
    | whitespace => simp only [ofSegments, step]
    | anythingElse => cases goesOn
    | token kind => simp only [ofSegments, step, List.cons_append]

theorem failure_of_lexical (lexical : ∀ segment ∈ front, segment.isLexical = true)
    (place : Position) : (ofSegments place front).failure = none := by
  have alone := ofSegments_append lexical place []
  rw [List.append_nil] at alone
  rw [alone]
  rfl

end Lexical

theorem lexical_split (parts : List Segment) :
    ∃ front later, parts = front ++ later ∧
      (∀ segment ∈ front, segment.isLexical = true) ∧
      (later = [] ∨ ∃ run rest, later = ⟨.anythingElse, run⟩ :: rest) := by
  induction parts with
  | nil => exact ⟨[], [], rfl, by simp, .inl rfl⟩
  | cons segment rest ih =>
    obtain ⟨front, later, rfl, lexical, stop⟩ := ih
    obtain ⟨role, text⟩ := segment
    by_cases otherwise : role = .anythingElse
    · subst otherwise
      exact ⟨[], _, rfl, by simp, .inr ⟨text, _, rfl⟩⟩
    · exact ⟨⟨role, text⟩ :: front, later, rfl,
        List.forall_mem_cons.mpr ⟨bne_iff_ne.mpr otherwise, lexical⟩, stop⟩

end Scan

namespace Vocabulary

theorem classify_named : ∀ role ∈ ofStandardRows.roles,
    (ofStandardRows.roles.filter fun other => [role.name].contains other.name) = [role] := by
  decide +kernel

theorem classify_standard {role : Role} {found : Match} (listed : role ∈ ofStandardRows.roles)
    (groups : found.groups = [role.name]) : ofStandardRows.classify found = .ok role := by
  unfold classify
  rw [groups, classify_named role listed]

theorem role_of_segment {text : List Char} {segment : Segment} (member : segment ∈ segments text) :
    segment.role ∈ ofStandardRows.roles := by
  fun_induction segments text with
  | case1 => cases member
  | case2 text row size found ih =>
    rcases List.mem_cons.mp member with rfl | member
    · exact List.mem_map_of_mem (listed_of_firstRow? found)
    · exact ih member

theorem ofSegments_eq {whole before : List Char} {parts : List Segment}
    (listed : ∀ segment ∈ parts, segment.role ∈ ofStandardRows.roles)
    (split : whole = before ++ parts.flatMap Segment.text) :
    Scan.ofSegments (Position.first.behind before) parts =
      ⟨(ofStandardRows.passed (layout (width before) parts)).filterMap
          (ofStandardRows.token? whole),
        (layout (width before) parts).findSome? (ofStandardRows.failure? whole)⟩ := by
  -- The text before the segments grows by each of them; the whole text stays.
  induction parts generalizing before with
  | nil => rfl
  | cons segment rest ih =>
    obtain ⟨role, text⟩ := segment
    have later : whole = (before ++ text) ++ rest.flatMap Segment.text := by
      rw [split, List.flatMap_cons, List.append_assoc]
    have step := ih (fun other member => listed other (List.mem_cons_of_mem _ member)) later
    rw [Position.behind_append, width_append] at step
    have place := Position.first_behind before (text ++ rest.flatMap Segment.text)
    rw [← List.append_assoc, ← later] at place
    rw [place] at step ⊢
    have known : ofStandardRows.classify ⟨width before, width before + width text,
        String.ofList text, [role.name]⟩ = .ok role :=
      classify_standard (listed _ List.mem_cons_self) rfl
    unfold layout
    cases role with
    | whitespace =>
      simp [Scan.ofSegments, step, cause?, token?, failure?, passed, known]
    | anythingElse =>
      simp [Scan.ofSegments, cause?, failure?, passed, known]
    | token kind =>
      simp [Scan.ofSegments, step, cause?, token?, failure?, passed, known, Position.token]

theorem scan_eq_ofSegments (source : String) :
    Lexicon.scan source = .ok (Scan.ofSegments .first (segments source.toList)) := by
  have told := @ofSegments_eq source.toList [] _ (fun segment => role_of_segment)
    (flatMap_segments source.toList).symm
  rw [Position.behind_nil, width_nil, ← allMatches_eq_layout] at told
  rw [scan_of_standard standard_eq, scan_eq, emitted, tokensOf_tokens, told]
  rfl

theorem tokenize_eq (source : String) :
    tokenize source = .ok (Scan.ofSegments .first (segments source.toList)).result := by
  rw [tokenize, scan_eq_ofSegments]
  rfl

theorem tokenize_of_stuck {source : String} {passed later : List Segment} {run : List Char}
    (parts : segments source.toList = passed ++ ⟨.anythingElse, run⟩ :: later)
    (lexical : ∀ segment ∈ passed, segment.isLexical = true) :
    let front := passed.flatMap Segment.text
    tokenize source = .ok (.error ⟨.unexpectedSymbol (String.ofList run),
      ⟨width front, lineAt source.toList (width front)⟩⟩) := by
  have whole : passed.flatMap Segment.text ++ (run ++ later.flatMap Segment.text) =
      source.toList := by simpa [parts] using flatMap_segments source.toList
  have place := Position.first_behind (passed.flatMap Segment.text)
    (run ++ later.flatMap Segment.text)
  rw [whole] at place
  dsimp only
  rw [tokenize_eq, parts, Scan.ofSegments_append lexical, place]
  rfl

end Vocabulary

end Lexicon
