import Lexicon.Proofs.Reading.Inside

/-! Reading a text as the body of a named group.

Main statement: if a text is read alone and does not end inside a comment, then reading it with a
group's head before it and a closing parenthesis behind it adds one piece, the group around what
the text is alone (`foldlM_group`).
-/

set_option autoImplicit false

namespace Lexicon.Pattern

theorem bind_ok {α β : Type} {part : Except Fault α} {goOn : α → Except Fault β} {result : β}
    (ends : part.bind goOn = .ok result) :
    ∃ value, part = .ok value ∧ goOn value = .ok result := by
  cases part with
  | error fault => cases ends
  | ok value => exact ⟨value, rfl, ends⟩

theorem Piece.admit_ok {piece : Piece} {pattern : Pattern} (admitted : piece.admit = .ok pattern) :
    pattern = piece.pattern := by
  unfold Piece.admit at admitted
  split at admitted
  · cases admitted
  · split at admitted
    · cases admitted
      rfl
    · cases admitted

theorem ofChars_ok {text : List Char} {pattern : Pattern} (read : ofChars text = .ok pattern) :
    ∃ last piece, text.foldlM Reader.step Reader.start = .ok last ∧ last.finish = .ok piece ∧
      pattern = piece.pattern := by
  obtain ⟨last, folded, read⟩ := bind_ok read
  obtain ⟨piece, finished, admitted⟩ := bind_ok read
  exact ⟨last, piece, folded, finished, Piece.admit_ok admitted⟩

namespace Reader

theorem foldlM_of_step {reader next : Reader} {c : Char} (read : reader.step c = .ok next)
    (rest : List Char) : (c :: rest).foldlM step reader = rest.foldlM step next := by
  rw [List.foldlM_cons, read]
  rfl

/-! ### The end of a text -/

/-- Behind `reader`, what a repetition or an edge still waited for has been decided: nothing
follows. -/
inductive Settles (reader : Reader) : Reader → Prop
  | items (mode : reader.mode = .items) : Settles reader reader
  | repeating {body : Piece} {count : Count} {braced : Bool} {settled : Reader}
      (mode : reader.mode = .repeating body count braced)
      (pushed : reader.pushRepeated body count true = .ok settled) : Settles reader settled
  | edge (mode : reader.mode = .edge .bare) : Settles reader (reader.pushEdge .atEdge)

theorem settles_of_finish {reader : Reader} {piece : Piece} (whole : reader.finish = .ok piece) :
    ∃ settled, reader.Settles settled ∧ settled.ended = .ok piece := by
  unfold finish at whole
  split at whole
  · next mode => exact ⟨reader, .items mode, whole⟩
  · next mode =>
    obtain ⟨settled, pushed, last⟩ := bind_ok whole
    exact ⟨settled, .repeating mode pushed, last⟩
  · cases whole
  · cases whole
  · next mode => exact ⟨_, .edge mode, whole⟩
  · cases whole
  · cases whole
  · cases whole

theorem pushRepeated_ok {reader next : Reader} {body : Piece} {count : Count} {greedy : Bool}
    (pushed : reader.pushRepeated body count greedy = .ok next) :
    let piece := body.repeated count (greedy != reader.level.flags.swapGreed)
    ¬ depthLimit < piece.depth ∧ next = reader.push piece := by
  unfold pushRepeated pushDeep at pushed
  split at pushed
  · cases pushed
  · next room =>
    cases pushed
    exact ⟨room, rfl⟩

theorem Settles.around_eq {reader settled : Reader} (settles : reader.Settles settled) :
    settled.outer = reader.outer ∧ settled.names = reader.names := by
  cases settles with
  | items mode => exact ⟨rfl, rfl⟩
  | repeating mode pushed =>
    obtain ⟨-, rfl⟩ := pushRepeated_ok pushed
    exact ⟨rfl, rfl⟩
  | edge mode => exact ⟨rfl, rfl⟩

theorem step_close {reader settled : Reader} (quiet : reader.comment = false)
    (settles : reader.Settles settled) : reader.step ')' = settled.closeGroup := by
  have counts : reader.step ')' = reader.take ')' := by
    have solid : Text.isBlank ')' = false := by decide
    simp [step, quiet, solid]
  rw [counts]
  unfold take
  cases settles with
  | items mode =>
    rw [mode]
    rfl
  | repeating mode pushed =>
    rw [mode]
    simp only [show ¬ ')' = '?' by decide, if_false, pushed]
    rfl
  | edge mode =>
    rw [mode]
    rfl

theorem Alike.settles {outer : List (GroupKind × Level)} {names : List String} {comment : Bool}
    {alone nested first : Reader} (same : Alike outer names comment alone nested)
    (settles : alone.Settles first) :
    ∃ second, nested.Settles second ∧ Alike outer names comment first second := by
  cases settles with
  | items mode => exact ⟨nested, .items (same.mode_eq.trans mode), same⟩
  | @repeating body count _ _ mode pushed =>
    have own := same.known.mode
    rw [mode] at own
    have agree := same.pushRepeated own count true
    cases again : nested.pushRepeated body count true with
    | error fault =>
      simp only [Reader.pushRepeated, same.level_eq, Reader.pushDeep] at pushed again
      split at again
      · next deep =>
        rw [if_pos deep] at pushed
        cases pushed
      · cases again
    | ok second =>
      exact ⟨second, .repeating (same.mode_eq.trans mode) again, agree _ _ pushed again⟩
  | edge mode => exact ⟨_, .edge (same.mode_eq.trans mode), same.pushEdge .atEdge⟩

/-! ### The head of a named group -/

def isGroupName : List Char → Bool
  | [] => false
  | first :: rest => isNameStart first && (first :: rest).all fun c => isNamePart c && c != '>'

section Head

variable {reader : Reader} (quiet : reader.comment = false)
  (plain : reader.level.flags.verbose = false)
include quiet plain

theorem step_plain (c : Char) : reader.step c = reader.take c := by
  simp [step, quiet, plain]

theorem step_head (head : GroupHead) (c : Char) :
    (reader.goto (.head head)).step c = (reader.goto (.head head)).stepHead head c := by
  simp [step, goto, take, quiet, plain]

theorem foldlM_nameParts {typed : List Char} (started : typed ≠ []) {letters : List Char}
    (valid : letters.all fun c => isNamePart c && c != '>') :
    letters.foldlM step (reader.goto (.head (.name typed))) =
      .ok (reader.goto (.head (.name (letters.reverse ++ typed)))) := by
  induction letters generalizing typed with
  | nil => rfl
  | cons c rest ih =>
    rw [List.all_cons, Bool.and_eq_true, Bool.and_eq_true, bne_iff_ne] at valid
    obtain ⟨⟨part, other⟩, parts⟩ := valid
    have next : (reader.goto (.head (.name typed))).step c =
        .ok (reader.goto (.head (.name (c :: typed)))) := by
      rw [step_head quiet plain]
      simp [goto, stepHead, GroupHead.step, GroupHead.stepName, started, part, other]
    rw [foldlM_of_step next, List.reverse_cons, List.append_assoc]
    exact ih (List.cons_ne_nil _ _) parts

theorem foldlM_name {name : String} (valid : isGroupName name.toList) :
    (name.toList ++ ['>']).foldlM step (reader.goto (.head (.name []))) =
      reader.openNamed name := by
  cases letters : name.toList with
  | nil => simp [letters, isGroupName] at valid
  | cons first rest =>
    rw [letters, isGroupName, List.all_cons, Bool.and_eq_true, Bool.and_eq_true,
      Bool.and_eq_true, bne_iff_ne] at valid
    obtain ⟨starts, ⟨-, other⟩, parts⟩ := valid
    have begun : (reader.goto (.head (.name []))).step first =
        .ok (reader.goto (.head (.name [first]))) := by
      rw [step_head quiet plain]
      simp [goto, stepHead, GroupHead.step, GroupHead.stepName, starts, other]
    have named : String.ofList (rest.reverse ++ [first]).reverse = name := by
      rw [← String.toList_inj, String.toList_ofList, letters]
      simp
    have closed : (reader.goto (.head (.name (rest.reverse ++ [first])))).step '>' =
        reader.openNamed name := by
      rw [step_head quiet plain]
      simp only [stepHead, goto, GroupHead.step, GroupHead.stepName, if_true, named]
      simp
      rfl
    rw [List.cons_append, foldlM_of_step begun, List.foldlM_append,
      foldlM_nameParts quiet plain (List.cons_ne_nil first []) parts]
    change ['>'].foldlM step (reader.goto (.head (.name (rest.reverse ++ [first])))) = _
    rw [List.foldlM_cons, closed]
    exact bind_pure _

theorem foldlM_head (items : reader.mode = .items) {name : String}
    (valid : isGroupName name.toList) :
    ("(?P<".toList ++ name.toList ++ ['>']).foldlM step reader = reader.openNamed name := by
  have opening : "(?P<".toList = ['(', '?', 'P', '<'] := by decide
  have first : reader.step '(' = .ok (reader.goto (.head .opened)) := by
    simp [step_plain quiet plain, take, items, startItem]
  have second : (reader.goto (.head .opened)).step '?' =
      .ok (reader.goto (.head .question)) := step_head quiet plain _ _
  have third : (reader.goto (.head .question)).step 'P' =
      .ok (reader.goto (.head .questionP)) := step_head quiet plain _ _
  have fourth : (reader.goto (.head .questionP)).step '<' =
      .ok (reader.goto (.head (.name []))) := step_head quiet plain _ _
  rw [opening, List.append_assoc, List.cons_append, foldlM_of_step first, List.cons_append,
    foldlM_of_step second, List.cons_append, foldlM_of_step third, List.cons_append,
    foldlM_of_step fourth]
  exact foldlM_name quiet plain valid

end Head

/-! ### The whole group -/

theorem openNamed_eq {reader opened : Reader} (quiet : reader.comment = false)
    (flags : reader.level.flags = .start) {name : String}
    (opens : reader.openNamed name = .ok opened) :
    name ∉ reader.names ∧ opened =
      start.inside ((.named name, reader.level) :: reader.outer) (name :: reader.names) := by
  unfold openNamed at opens
  split at opens
  · cases opens
  · next fresh =>
    cases opens
    refine ⟨fresh, ?_⟩
    simp [openGroup, inside, start, quiet, flags]

theorem ended_ok {reader : Reader} {piece : Piece} (ends : reader.ended = .ok piece) :
    reader.outer = [] ∧ reader.level.whole = piece := by
  unfold ended at ends
  split at ends
  · next none =>
    cases ends
    exact ⟨none, rfl⟩
  · cases ends

/-- A text that can be read alone, and does not end in a comment, is read with the closing
parenthesis behind it as the rest of the group that has been opened. -/
theorem foldlM_body {last next : Reader} {kind : GroupKind} {level : Level}
    {outer : List (GroupKind × Level)} {names : List String} {body : List Char} {piece : Piece}
    (distinct : names.Nodup) (alone : body.foldlM step start = .ok last)
    (outside : last.comment = false) (whole : last.finish = .ok piece)
    (read : (body ++ [')']).foldlM step (start.inside ((kind, level) :: outer) names) =
      .ok next) :
    piece.names ⊆ last.names ∧ (last.names ++ names).Nodup ∧
      next = ⟨outer, level.push (.group kind piece), last.names ++ names, .items, false⟩ := by
  rw [List.foldlM_append] at read
  obtain ⟨nested, readBody, read⟩ := bind_ok read
  have started : Alike ((kind, level) :: outer) names false start (start.inside _ _) :=
    ⟨rfl, known_start, distinct, rfl⟩
  have same := started.foldlM body last nested alone readBody
  obtain ⟨settled, settles, ends⟩ := settles_of_finish whole
  obtain ⟨none, rfl⟩ := ended_ok ends
  obtain ⟨second, settlesNested, alike⟩ := same.settles settles
  have closes : nested.step ')' = second.closeGroup :=
    step_close (same.comment_same.trans outside) settlesNested
  rw [List.foldlM_cons, closes] at read
  obtain ⟨closed, closes, same⟩ := bind_ok read
  cases same
  obtain ⟨rfl, known, distinct, silent⟩ := alike
  simp only [closeGroup, inside, none, List.nil_append, pushDeep] at closes
  split at closes
  · cases closes
  · cases closes
    rw [← settles.around_eq.2]
    refine ⟨List.Subset.trans (Level.names_whole _) known.level, distinct, ?_⟩
    simp [push, silent, outside]

theorem foldlM_group {reader last next : Reader} {name : String} {body : List Char}
    {piece : Piece} (items : reader.mode = .items) (quiet : reader.comment = false)
    (flags : reader.level.flags = .start) (distinct : reader.names.Nodup)
    (valid : isGroupName name.toList) (alone : body.foldlM step start = .ok last)
    (outside : last.comment = false) (whole : last.finish = .ok piece)
    (read : ("(?P<".toList ++ name.toList ++ '>' :: body ++ [')']).foldlM step reader =
      .ok next) :
    piece.names ⊆ last.names ∧ (last.names ++ name :: reader.names).Nodup ∧
      next = { reader.push (.group (.named name) piece) with
        names := last.names ++ name :: reader.names } := by
  have plain : reader.level.flags.verbose = false := by rw [flags]; rfl
  have parts : "(?P<".toList ++ name.toList ++ '>' :: body ++ [')'] =
      ("(?P<".toList ++ name.toList ++ ['>']) ++ (body ++ [')']) := by simp
  rw [parts, List.foldlM_append, foldlM_head quiet plain items valid] at read
  obtain ⟨opened, opens, read⟩ := bind_ok read
  obtain ⟨fresh, rfl⟩ := openNamed_eq quiet flags opens
  obtain ⟨known, used, rfl⟩ :=
    foldlM_body (List.nodup_cons.mpr ⟨fresh, distinct⟩) alone outside whole read
  exact ⟨known, used, by simp [push, quiet]⟩

end Reader

end Lexicon.Pattern
