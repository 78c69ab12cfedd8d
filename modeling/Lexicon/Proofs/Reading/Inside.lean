import Lexicon.Pattern.Reading
import Lexicon.Proofs.Pattern.Names

/-! Reading a text inside groups that are open already.

Main statement: where a text is read inside open groups without a fault, the reading goes as it
does alone, and what it adds to the reader is the same (`Alike.foldlM`). The reader looks at the
groups around the current one only when it closes them, and at the names used before only when it
meets a new one.
-/

set_option autoImplicit false

namespace Lexicon.Pattern

/-! ### Names in pieces and levels -/

namespace Piece

def names (piece : Piece) : List String := piece.pattern.groupNames

theorem names_sequence (pieces : List Piece) : (sequence pieces).names = pieces.flatMap names := by
  match pieces with
  | [] => rfl
  | [only] => simp [sequence]
  | _ :: _ :: _ => exact (groupNames_sequence _).trans (List.flatMap_map _ _ _)

theorem names_oneOf (pieces : List Piece) : (oneOf pieces).names = pieces.flatMap names := by
  match pieces with
  | [] => rfl
  | [only] => simp [oneOf]
  | _ :: _ :: _ => exact (groupNames_oneOf _).trans (List.flatMap_map _ _ _)

theorem names_repeated (body : Piece) (count : Count) (greedy : Bool) :
    (body.repeated count greedy).names ⊆ body.names := by
  simp only [repeated]
  split
  · exact List.nil_subset _
  · split
    · exact List.Subset.refl _
    · exact groupNames_repeated _ _ _ _

end Piece

def GroupKind.names : GroupKind → List String
  | plain | marked => []
  | named name => [name]

theorem Piece.names_group (kind : GroupKind) (body : Piece) :
    (Piece.group kind body).names = kind.names ++ body.names := by
  cases kind <;> rfl

def Level.names (level : Level) : List String :=
  (level.branches ++ level.allPieces).flatMap Piece.names

namespace Level

theorem names_push (level : Level) (piece : Piece) :
    (level.push piece).names ⊆ piece.names ++ level.names := by
  intro name
  simp only [names, push, allPieces, Option.toList_some, List.flatMap_append, List.mem_append,
    List.flatMap_cons, List.flatMap_nil, List.append_nil]
  exact or_left_comm.mp

theorem names_whole (level : Level) : level.whole.names ⊆ level.names := by
  intro name
  simp only [whole, Piece.names_oneOf, branch, List.mem_flatMap, List.mem_reverse, List.mem_cons,
    names, List.mem_append]
  rintro ⟨piece, rfl | member, inside⟩
  · rw [Piece.names_sequence, List.mem_flatMap] at inside
    obtain ⟨part, member, inside⟩ := inside
    exact ⟨part, .inr (List.mem_reverse.mp member), inside⟩
  · exact ⟨piece, .inl member, inside⟩

theorem names_nextBranch (level : Level) : level.nextBranch.names ⊆ level.names := by
  intro name
  simp only [nextBranch, names, allPieces, branch, Option.toList_none, List.append_nil,
    List.flatMap_cons, List.mem_append, Piece.names_sequence, List.mem_flatMap, List.mem_reverse]
  rintro (⟨piece, member, inside⟩ | ⟨piece, member, inside⟩)
  · exact ⟨piece, .inr member, inside⟩
  · exact ⟨piece, .inl member, inside⟩

theorem names_setFlags (level : Level) (list : FlagList) :
    (level.setFlags list).names ⊆ level.names := by
  intro name
  simp [setFlags, names, allPieces, Piece.nothing, Piece.names, groupNames]

theorem names_dropOperand (level : Level) :
    { level with operand := none }.names ⊆ level.names := by
  intro name
  simp only [names, allPieces, Option.toList_none, List.nil_append, List.flatMap_append,
    List.mem_append]
  exact Or.imp_right Or.inr

theorem names_operand {level : Level} {body : Piece} (last : level.operand = some body) :
    body.names ⊆ level.names := by
  intro name inside
  simp [names, allPieces, last, inside]

end Level

def Mode.names : Mode → List String
  | .repeating body _ _ | .counting body _ => body.names
  | .items | .escape _ | .edge _ | .bracket _ | .head _ => []

namespace Reader

def inside (reader : Reader) (outer : List (GroupKind × Level)) (names : List String) : Reader :=
  { reader with outer := reader.outer ++ outer, names := reader.names ++ names }

/-- Every group of the pieces and of the open groups has one of the names that have been used. -/
structure Known (reader : Reader) : Prop where
  level : reader.level.names ⊆ reader.names
  outer : ∀ opened ∈ reader.outer, opened.1.names ++ opened.2.names ⊆ reader.names
  mode : reader.mode.names ⊆ reader.names

theorem known_start : start.Known := ⟨List.nil_subset _, by simp [start], List.nil_subset _⟩

/-- Two readers that differ only in what is around them: `nested` reads the same text inside
`outer`, behind the names `names`. -/
structure Alike (outer : List (GroupKind × Level)) (names : List String) (comment : Bool)
    (alone nested : Reader) : Prop where
  nested_eq : nested = alone.inside outer names
  known : alone.Known
  distinct : nested.names.Nodup
  comment_eq : alone.comment = comment

end Reader

/-- Two results are related unless one of them is a fault. -/
def Agree {α : Type} (related : α → α → Prop) (alone nested : Except Fault α) : Prop :=
  ∀ first second, alone = .ok first → nested = .ok second → related first second

namespace Agree

variable {α β : Type} {related : α → α → Prop} {next : β → β → Prop}

theorem ok {first second : α} (holds : related first second) :
    Agree related (.ok first) (.ok second) := by
  rintro _ _ ⟨⟩ ⟨⟩
  exact holds

theorem fault (fault : Fault) (nested : Except Fault α) : Agree related (.error fault) nested := by
  rintro _ _ ⟨⟩

theorem bind {alone nested : Except Fault α} {goOn goOnNested : α → Except Fault β}
    (agree : Agree related alone nested)
    (later : ∀ first second, related first second → Agree next (goOn first) (goOnNested second)) :
    Agree next (alone.bind goOn) (nested.bind goOnNested) := by
  intro first second ends endsNested
  cases alone with
  | error fault => cases ends
  | ok state =>
    cases nested with
    | error fault => cases endsNested
    | ok stateNested => exact later _ _ (agree _ _ rfl rfl) first second ends endsNested

theorem map {part : Except Fault α} {use useNested : α → β}
    (later : ∀ value, next (use value) (useNested value)) :
    Agree next (part.map use) (part.map useNested) := by
  cases part with
  | error fault => exact .fault fault _
  | ok value => exact .ok (later value)

end Agree

namespace Reader.Alike

variable {outer : List (GroupKind × Level)} {names : List String} {comment : Bool}
  {alone nested : Reader} (same : Alike outer names comment alone nested)
include same

theorem level_eq : nested.level = alone.level := by
  rw [same.nested_eq]
  rfl

theorem mode_eq : nested.mode = alone.mode := by
  rw [same.nested_eq]
  rfl

/-! ### What a step is made of -/

theorem update {level : Level} {mode : Mode} (ofLevel : level.names ⊆ alone.names)
    (ofMode : mode.names ⊆ alone.names) :
    Alike outer names comment { alone with level := level, mode := mode }
      { nested with level := level, mode := mode } := by
  obtain ⟨rfl, known, distinct, quiet⟩ := same
  exact ⟨rfl, ⟨ofLevel, known.outer, ofMode⟩, distinct, quiet⟩

theorem goto {mode : Mode} (own : mode.names ⊆ alone.names) :
    Alike outer names comment (alone.goto mode) (nested.goto mode) := by
  obtain ⟨rfl, known, distinct, quiet⟩ := same
  exact ⟨rfl, ⟨known.level, known.outer, own⟩, distinct, quiet⟩

theorem push {piece : Piece} (own : piece.names ⊆ alone.names) :
    Alike outer names comment (alone.push piece) (nested.push piece) := by
  have known := List.append_subset.mpr ⟨own, same.known.level⟩
  unfold Reader.push
  rw [same.level_eq]
  exact same.update (List.Subset.trans (alone.level.names_push piece) known) (List.nil_subset _)

theorem pushDeep {piece : Piece} (own : piece.names ⊆ alone.names) :
    Agree (Alike outer names comment) (alone.pushDeep piece) (nested.pushDeep piece) := by
  unfold Reader.pushDeep
  split
  · exact .fault _ _
  · exact .ok (same.push own)

theorem pushSet (members : CharSet) :
    Alike outer names comment (alone.pushSet members) (nested.pushSet members) :=
  same.push (List.nil_subset _)

theorem pushChar (c : Char) :
    Alike outer names comment (alone.pushChar c) (nested.pushChar c) := by
  simp only [Reader.pushChar, same.level_eq]
  split
  · exact same.pushSet _
  · exact same.push (List.nil_subset _)

theorem pushAssertion (assertion : Assertion) :
    Alike outer names comment (alone.pushAssertion assertion) (nested.pushAssertion assertion) :=
  same.push (List.nil_subset _)

theorem pushEdge (edge : WordEdge) :
    Alike outer names comment (alone.pushEdge edge) (nested.pushEdge edge) := by
  simp only [Reader.pushEdge, same.level_eq]
  exact same.pushAssertion _

theorem pushRepeated {body : Piece} (own : body.names ⊆ alone.names) (count : Count)
    (greedy : Bool) :
    Agree (Alike outer names comment) (alone.pushRepeated body count greedy)
      (nested.pushRepeated body count greedy) := by
  simp only [Reader.pushRepeated, same.level_eq]
  exact same.pushDeep (List.Subset.trans (Piece.names_repeated body count _) own)

theorem takeOperand {mode : Piece → Mode} (own : ∀ body, (mode body).names ⊆ body.names) :
    Agree (Alike outer names comment) (alone.takeOperand mode) (nested.takeOperand mode) := by
  simp only [Reader.takeOperand, same.level_eq]
  cases last : alone.level.operand with
  | none => exact .fault _ _
  | some body =>
    have known := List.Subset.trans (Level.names_operand last) same.known.level
    exact .ok (same.update (List.Subset.trans (Level.names_dropOperand _) same.known.level)
      (List.Subset.trans (own body) known))

theorem startCounting :
    Agree (Alike outer names comment) alone.startCounting nested.startCounting :=
  same.takeOperand fun _ => List.Subset.refl _

theorem openGroup {kind : GroupKind} (own : kind.names ⊆ alone.names) (flags : Flags) :
    Alike outer names comment (alone.openGroup kind flags) (nested.openGroup kind flags) := by
  obtain ⟨rfl, known, distinct, quiet⟩ := same
  refine ⟨rfl, ⟨List.nil_subset _, ?_, List.nil_subset _⟩, distinct, quiet⟩
  exact List.forall_mem_cons.mpr ⟨List.append_subset.mpr ⟨own, known.level⟩, known.outer⟩

theorem useName {name : String} (fresh : name ∉ nested.names) :
    Alike outer names comment { alone with names := name :: alone.names }
      { nested with names := name :: nested.names } := by
  obtain ⟨rfl, known, distinct, quiet⟩ := same
  have wider := List.subset_cons_self name alone.names
  refine ⟨rfl, ⟨?_, fun opened member => ?_, ?_⟩, List.nodup_cons.mpr ⟨fresh, distinct⟩, quiet⟩
  · exact List.Subset.trans known.level wider
  · exact List.Subset.trans (known.outer opened member) wider
  · exact List.Subset.trans known.mode wider

theorem openNamed (name : String) :
    Agree (Alike outer names comment) (alone.openNamed name) (nested.openNamed name) := by
  have flags : nested.level.flags = alone.level.flags := by rw [same.level_eq]
  unfold Reader.openNamed
  rw [flags]
  split
  · exact .fault _ _
  · split
    · rintro _ _ _ ⟨⟩
    · next fresh =>
      have own : (GroupKind.named name).names ⊆ name :: alone.names := by simp [GroupKind.names]
      exact .ok ((same.useName fresh).openGroup own _)

theorem closeGroup :
    Agree (Alike outer names comment) alone.closeGroup nested.closeGroup := by
  obtain ⟨rfl, known, distinct, quiet⟩ := same
  unfold Reader.closeGroup
  cases opened : alone.outer with
  | nil => exact .fault _ _
  | cons first rest =>
    obtain ⟨kind, level⟩ := first
    have around := known.outer
    rw [opened] at around
    obtain ⟨own, others⟩ := List.forall_mem_cons.mp around
    obtain ⟨ofKind, ofLevel⟩ := List.append_subset.mp own
    have closed : Alike outer names comment { alone with outer := rest, level := level }
        { alone.inside outer names with outer := rest ++ outer, level := level } :=
      ⟨rfl, ⟨ofLevel, others, known.mode⟩, distinct, quiet⟩
    simp only [inside, opened, List.cons_append]
    refine closed.pushDeep ?_
    rw [Piece.names_group]
    exact List.append_subset.mpr ⟨ofKind, List.Subset.trans (Level.names_whole _) known.level⟩

/-! ### The step functions -/

theorem startItem (c : Char) :
    Agree (Alike outer names comment) (alone.startItem c) (nested.startItem c) := by
  simp only [Reader.startItem, same.level_eq]
  split
  · exact .ok (same.goto (List.nil_subset _))
  · exact same.closeGroup
  · exact .ok (same.update (List.Subset.trans (Level.names_nextBranch _) same.known.level)
      (List.nil_subset _))
  · exact .ok (same.goto (List.nil_subset _))
  · exact .ok (same.goto (List.nil_subset _))
  · exact same.takeOperand fun _ => List.Subset.refl _
  · exact same.takeOperand fun _ => List.Subset.refl _
  · exact same.takeOperand fun _ => List.Subset.refl _
  · exact same.startCounting
  · exact .map same.pushSet
  · exact .ok (same.pushAssertion _)
  · exact .ok (same.pushAssertion _)
  · exact .ok (same.pushChar c)

theorem stepHead (head : GroupHead) (c : Char) :
    Agree (Alike outer names comment) (alone.stepHead head c) (nested.stepHead head c) := by
  simp only [Reader.stepHead, same.level_eq]
  cases head.step c with
  | error fault => exact .fault _ _
  | ok outcome =>
    cases outcome with
    | more head => exact .ok (same.goto (List.nil_subset _))
    | absent => exact (same.openGroup (List.nil_subset _) _).startItem c
    | named name => exact same.openNamed name
    | unnamed list => exact .ok (same.openGroup (List.nil_subset _) _)
    | setting list =>
      exact .ok (same.update (List.Subset.trans (Level.names_setFlags _ list) same.known.level)
        (List.nil_subset _))

theorem stepEscape (escape : Escape) (c : Char) :
    Agree (Alike outer names comment) (alone.stepEscape escape c) (nested.stepEscape escape c) := by
  simp only [Reader.stepEscape, same.level_eq]
  cases escape.step c with
  | error fault => exact .fault _ _
  | ok outcome =>
    cases outcome with
    | more escape => exact .ok (same.goto (List.nil_subset _))
    | char d => exact .ok (same.pushChar d)
    | byte d =>
      dsimp only
      split
      · exact .ok (same.pushChar d)
      · exact .fault _ _
    | members kind negated => exact .map same.pushSet
    | property members negated => exact .map same.pushSet
    | textEdge assertion => exact .ok (same.pushAssertion assertion)
    | wordEdge edge => exact .ok (same.pushEdge edge)
    | openEdge => exact .ok (same.goto (List.nil_subset _))

theorem stepBracket (bracket : Bracket) (c : Char) :
    Agree (Alike outer names comment) (alone.stepBracket bracket c)
      (nested.stepBracket bracket c) := by
  simp only [Reader.stepBracket, same.level_eq]
  cases bracket.step alone.level.flags c with
  | error fault => exact .fault _ _
  | ok outcome =>
    cases outcome with
    | more bracket => exact .ok (same.goto (List.nil_subset _))
    | closed inner => exact same.pushDeep (List.nil_subset _)

theorem stepCounting {body : Piece} (own : body.names ⊆ alone.names) (counting : Counting)
    (c : Char) :
    Agree (Alike outer names comment) (alone.stepCounting body counting c)
      (nested.stepCounting body counting c) := by
  unfold Reader.stepCounting
  cases counting.step c with
  | error fault => exact .fault _ _
  | ok outcome =>
    cases outcome with
    | more counting => exact .ok (same.goto own)
    | closed count => exact .ok (same.goto own)

theorem startCountOrItem (braced : Bool) (c : Char) :
    Agree (Alike outer names comment) (alone.startCountOrItem braced c)
      (nested.startCountOrItem braced c) := by
  unfold Reader.startCountOrItem
  split
  · refine same.startCounting.bind fun first second started => ?_
    rw [started.mode_eq]
    cases mode : first.mode with
    | counting body counting =>
      have own := started.known.mode
      rw [mode] at own
      exact started.stepCounting own counting c
    | _ => exact .fault _ _
  · exact same.startItem c

theorem stepEdge (name : EdgeName) (c : Char) :
    Agree (Alike outer names comment) (alone.stepEdge name c) (nested.stepEdge name c) := by
  unfold Reader.stepEdge
  cases name.step c with
  | error fault => exact .fault _ _
  | ok outcome =>
    cases outcome with
    | more name => exact .ok (same.goto (List.nil_subset _))
    | closed edge => exact .ok (same.pushEdge edge)
    | absent braced => exact (same.pushEdge .atEdge).startCountOrItem braced c

theorem take (c : Char) :
    Agree (Alike outer names comment) (alone.take c) (nested.take c) := by
  have own := same.known.mode
  unfold Reader.take
  rw [same.mode_eq]
  cases mode : alone.mode with
  | items => exact same.startItem c
  | repeating body count braced =>
    rw [mode] at own
    dsimp only
    split
    · exact same.pushRepeated own count false
    · exact (same.pushRepeated own count true).bind fun _ _ pushed => pushed.startItem c
  | counting body counting =>
    rw [mode] at own
    exact same.stepCounting own counting c
  | escape escape => exact same.stepEscape escape c
  | edge name => exact same.stepEdge name c
  | bracket bracket => exact same.stepBracket bracket c
  | head head => exact same.stepHead head c

theorem overlook? (c : Char) :
    Agree (Option.Rel (Alike outer names comment)) (alone.overlook? c) (nested.overlook? c) := by
  have own := same.known.mode
  unfold Reader.overlook?
  rw [same.mode_eq]
  cases mode : alone.mode with
  | items => exact .ok (.some same)
  | repeating body count braced =>
    rw [mode] at own
    dsimp only
    split
    · exact .ok (.some same)
    · exact (same.pushRepeated own count true).bind fun _ _ pushed => .ok (.some pushed)
  | counting body counting => exact .ok (.some same)
  | escape escape =>
    dsimp only
    split
    · exact .ok (.some same)
    · exact .ok .none
  | edge name =>
    cases name with
    | bare => exact .ok (.some (same.pushEdge .atEdge))
    | _ => exact .ok (.some same)
  | bracket bracket =>
    dsimp only
    cases bracket.overlook? c with
    | none => exact .ok .none
    | some bracket => exact .ok (.some (same.goto (List.nil_subset _)))
  | head head =>
    cases head with
    | opened => exact .ok (.some same)
    | _ => exact .ok .none

theorem withComment (later : Bool) :
    Alike outer names later { alone with comment := later } { nested with comment := later } := by
  obtain ⟨rfl, known, distinct, -⟩ := same
  exact ⟨rfl, ⟨known.level, known.outer, known.mode⟩, distinct, rfl⟩

theorem comment_same : nested.comment = alone.comment := by
  rw [same.nested_eq]
  rfl

/-- A step keeps the readers alike; only in a comment or where the pattern is verbose can it lead
into a comment. -/
theorem step (c : Char) :
    Agree (fun first second => Alike outer names first.comment first second ∧
        (comment = false → alone.level.flags.verbose = false → first.comment = false))
      (alone.step c) (nested.step c) := by
  have taken : Agree (fun first second => Alike outer names first.comment first second ∧
      (comment = false → alone.level.flags.verbose = false → first.comment = false))
      (alone.take c) (nested.take c) := by
    intro first second read readNested
    have next := same.take c first second read readNested
    exact ⟨⟨next.nested_eq, next.known, next.distinct, rfl⟩,
      fun quiet _ => next.comment_eq.trans quiet⟩
  simp only [Reader.step, same.comment_same, same.level_eq]
  split
  · next skips =>
    refine (same.overlook? c).bind fun first second overlooked => ?_
    cases overlooked with
    | none => exact taken
    | some next =>
      refine .ok ⟨next.withComment _, fun quiet plain => ?_⟩
      simp [same.comment_eq, quiet, plain] at skips
  · exact taken

theorem foldlM (text : List Char) :
    Agree (fun first second => Alike outer names first.comment first second)
      (text.foldlM Reader.step alone) (text.foldlM Reader.step nested) := by
  induction text generalizing alone nested comment with
  | nil => exact .ok (same.comment_eq ▸ same)
  | cons c rest ih =>
    rw [List.foldlM_cons, List.foldlM_cons]
    exact (same.step c).bind fun first second next => ih next.1

end Reader.Alike

end Lexicon.Pattern
