import FacetedQuery.Proofs.Template.Lines
import FacetedQuery.Proofs.Template.Holds

/-!
# Templates in pieces

A template as a list of characters and of places of placeholders.  Filling a text is filling the
places of its pieces as long as no characters outside them come to form a token.  What was put in
stays, so that it is enough to look at the pieces that are left in the end.
-/

namespace FacetedQuery.Template

variable {fills firsts lasts : List (Placeholder × List Char)} {placeholder : Placeholder}
  {value line inset : List Char}

/-- A character of a template, or the place of a placeholder. -/
inductive Piece where
  | char (character : Char)
  | hole (placeholder : Placeholder)

namespace Piece

/-- The text of a piece; a place is written as its token. -/
def text : Piece → List Char
  | .char character => [character]
  | .hole placeholder => placeholder.token.toList

/-- A text as characters only. -/
def chars (text : List Char) : List Piece :=
  text.map .char

/-- The text of pieces. -/
def flat (pieces : List Piece) : List Char :=
  pieces.flatMap text

variable {pieces others : List Piece}

@[simp] theorem flat_nil : flat [] = [] :=
  rfl

@[simp] theorem flat_cons (piece : Piece) (pieces : List Piece) :
    flat (piece :: pieces) = piece.text ++ flat pieces :=
  rfl

@[simp] theorem flat_append (pieces others : List Piece) :
    flat (pieces ++ others) = flat pieces ++ flat others :=
  List.flatMap_append

@[simp] theorem flat_chars (text : List Char) : flat (chars text) = text := by
  induction text with
  | nil => rfl
  | cons character text induction => exact congrArg (character :: ·) induction

/-- Only a place starts with an opening bracket that is no character of its own. -/
theorem chars_prefix {start : List Char} (plain : '<' ∉ start) (starts : start <+: flat pieces) :
    chars start <+: pieces := by
  induction start generalizing pieces with
  | nil => exact List.nil_prefix
  | cons first start induction =>
      simp only [List.mem_cons, not_or] at plain
      cases pieces with
      | nil => exact absurd starts (by simp)
      | cons piece pieces =>
          cases piece with
          | char character =>
              obtain ⟨rfl, further⟩ := List.cons_prefix_cons.mp starts
              exact List.cons_prefix_cons.mpr ⟨rfl, induction plain.2 further⟩
          | hole placeholder =>
              rw [flat_cons, text, toList_token] at starts
              exact absurd (List.cons_prefix_cons.mp starts).1.symm plain.1

theorem prefix_of_bracketed {name : List Char} {character : Char} (isName : IsName name)
    (here : bracketed name <+: flat (.char character :: pieces)) :
    chars (bracketed name) <+: .char character :: pieces := by
  obtain ⟨rfl, behind⟩ := List.cons_prefix_cons.mp here
  exact List.cons_prefix_cons.mpr ⟨rfl, chars_prefix isName.opening_not_mem behind⟩

theorem holds_of_chars {name : List Char} (isName : IsName name)
    (spelled : chars (bracketed name) <:+: pieces) : Holds (flat pieces) name := by
  obtain ⟨before, after, rfl⟩ := spelled
  exact ⟨isName, flat before, flat after, by simp⟩

/-- Fills the places of a placeholder behind the start of a line, which is given in reverse. -/
def fill (placeholder : Placeholder) (value : List Char) : List Char → List Piece → List Piece
  | _, [] => []
  | line, .char character :: rest =>
    .char character :: fill placeholder value (continueLine line [character]) rest
  | line, .hole other :: rest =>
    if other = placeholder then
      let put := inserted line value
      chars put ++ fill placeholder value (continueLine line put) rest
    else .hole other :: fill placeholder value (continueLine line other.token.toList) rest

/-- Fills the places of placeholders one after another. -/
def fillAll (fills : List (Placeholder × List Char)) (pieces : List Piece) : List Piece :=
  fills.foldl (fun pieces given => fill given.1 given.2 [] pieces) pieces

theorem fillAll_cons (given : Placeholder × List Char) (fills : List (Placeholder × List Char))
    (pieces : List Piece) :
    fillAll (given :: fills) pieces = fillAll fills (fill given.1 given.2 [] pieces) :=
  rfl

theorem fillAll_append (firsts lasts : List (Placeholder × List Char)) (pieces : List Piece) :
    fillAll (firsts ++ lasts) pieces = fillAll lasts (fillAll firsts pieces) :=
  List.foldl_append

theorem fill_append (line : List Char) (pieces others : List Piece) :
    fill placeholder value line (pieces ++ others) = fill placeholder value line pieces ++
      fill placeholder value
        (continueLine line (flat (fill placeholder value line pieces))) others := by
  induction pieces generalizing line with
  | nil => rfl
  | cons piece pieces induction =>
      cases piece with
      | char character =>
          rw [List.cons_append, fill, fill, induction, flat_cons, text, continueLine_append,
            List.cons_append]
      | hole other =>
          simp only [List.cons_append, fill]
          split
          · simp only [induction, flat_append, flat_chars, continueLine_append, List.append_assoc]
          · simp only [List.cons_append, flat_cons, induction, text, continueLine_append]

@[simp] theorem fill_chars (line text : List Char) :
    fill placeholder value line (chars text) = chars text := by
  induction text generalizing line with
  | nil => rfl
  | cons character text induction => exact congrArg (.char character :: ·) (induction _)

theorem exists_fillAll_chars (fills : List (Placeholder × List Char)) (text : List Char)
    (pieces others : List Piece) :
    ∃ rest, fillAll fills (pieces ++ (chars text ++ others)) =
      fillAll fills pieces ++ (chars text ++ rest) := by
  induction fills generalizing pieces others with
  | nil => exact ⟨others, rfl⟩
  | cons given fills induction =>
      rw [fillAll_cons, fillAll_cons, fill_append, fill_append, fill_chars]
      exact induction _ _

theorem exists_fillAll_hole (apart : ∀ given ∈ fills, placeholder ≠ given.1)
    (pieces others : List Piece) :
    ∃ rest, fillAll fills (pieces ++ .hole placeholder :: others) =
      fillAll fills pieces ++ .hole placeholder :: rest := by
  induction fills generalizing pieces others with
  | nil => exact ⟨others, rfl⟩
  | cons given fills induction =>
      rw [fillAll_cons, fillAll_cons, fill_append, fill, if_neg (apart given (by simp))]
      exact induction (fun other member => apart other (by simp [member])) _ _

theorem chars_infix_fillAll (fills : List (Placeholder × List Char)) {text : List Char}
    (spelled : chars text <:+: pieces) : chars text <:+: fillAll fills pieces := by
  obtain ⟨before, after, rfl⟩ := spelled
  obtain ⟨rest, same⟩ := exists_fillAll_chars fills text before after
  rw [List.append_assoc, same]
  exact ⟨_, rest, List.append_assoc _ _ _⟩

/-- Filling a text is filling the places of its pieces. -/
theorem replace_flat (absent : ¬chars placeholder.token.toList <:+: pieces) (line : List Char) :
    replace placeholder.token.toList value line 0 (flat pieces) =
      flat (fill placeholder value line pieces) := by
  induction pieces generalizing line with
  | nil => rfl
  | cons piece pieces induction =>
      have further := induction fun spelled => absent (List.infix_cons spelled)
      cases piece with
      | char character =>
          have noToken : ¬placeholder.token.toList.isPrefixOf (character :: flat pieces) =
            true := by
            intro starts
            rw [toList_token] at absent starts
            exact absent (prefix_of_bracketed (isName_name placeholder)
              (List.isPrefixOf_iff_prefix.mp starts)).isInfix
          simp only [flat_cons, text, fill, List.singleton_append]
          rw [replace_cons, if_neg noToken, further]
      | hole other =>
          rw [flat_cons, text, fill]
          by_cases same : other = placeholder
          · subst same
            rw [if_pos rfl, replace_token, further, flat_append, flat_chars]
          · rw [if_neg same, replace_other same, further, flat_cons, text]

/-- Filling a text step by step is filling the places of its pieces, if in the end no characters
spell one of the tokens. -/
theorem fillAll_flat
    (absent : ∀ given ∈ fills, ¬chars given.1.token.toList <:+: fillAll fills pieces) :
    Template.fillAll fills (flat pieces) = flat (fillAll fills pieces) := by
  induction fills generalizing pieces with
  | nil => rfl
  | cons given fills induction =>
      have absentNow : ¬chars given.1.token.toList <:+: pieces := fun spelled =>
        absent given (by simp) (chars_infix_fillAll _ spelled)
      have further := induction fun other member => absent other (by simp [member])
      unfold Template.fillAll at further ⊢
      rw [List.foldl_cons, replace_flat absentNow, further, fillAll_cons]

/-- A piece with the value for its placeholder. -/
def put (fills : List (Placeholder × List Char)) : Piece → List Piece
  | .char character => [.char character]
  | .hole placeholder =>
    match fills.lookup placeholder with
    | some value => chars value
    | none => [.hole placeholder]

def putAll (fills : List (Placeholder × List Char)) (pieces : List Piece) : List Piece :=
  pieces.flatMap (put fills)

theorem putAll_cons_hole (piece : Piece) (pieces : List Piece) :
    putAll fills (piece :: pieces) = put fills piece ++ putAll fills pieces :=
  rfl

theorem putAll_append (pieces others : List Piece) :
    putAll fills (pieces ++ others) = putAll fills pieces ++ putAll fills others :=
  List.flatMap_append

@[simp] theorem putAll_chars (text : List Char) : putAll fills (chars text) = chars text := by
  induction text with
  | nil => rfl
  | cons character text induction => exact congrArg (.char character :: ·) induction

theorem putAll_nil (pieces : List Piece) : putAll [] pieces = pieces := by
  induction pieces with
  | nil => rfl
  | cons piece pieces induction =>
      rw [putAll_cons_hole, induction]
      cases piece <;> rfl

/-- The first value may be put in first. -/
theorem putAll_cons (given : Placeholder × List Char) (pieces : List Piece) :
    putAll (given :: fills) pieces = putAll fills (putAll [given] pieces) := by
  induction pieces with
  | nil => rfl
  | cons piece pieces induction =>
      rw [putAll_cons_hole, putAll_cons_hole, putAll_append, induction]
      congr 1
      cases piece with
      | char character => rfl
      | hole placeholder =>
          obtain ⟨first, value⟩ := given
          by_cases same : placeholder = first
          · simp [put, same]
          · simp [put, putAll, List.lookup_cons, beq_eq_false_iff_ne.mpr same]

end Piece

open Piece (chars flat)

variable {pieces others more further : List Piece}

/-- The second pieces are the first ones with blank indentations behind line feeds. -/
inductive Inset : List Piece → List Piece → Prop where
  | nil : Inset [] []
  | cons {pieces others : List Piece} (piece : Piece) :
      Inset pieces others → Inset (piece :: pieces) (piece :: others)
  | feed {inset : List Char} {pieces others : List Piece} :
      (∀ character ∈ inset, Text.isBlank character = true) → '\n' ∉ inset → Inset pieces others →
      Inset (.char '\n' :: pieces) (.char '\n' :: (chars inset ++ others))

namespace Inset

theorem refl (pieces : List Piece) : Inset pieces pieces := by
  induction pieces with
  | nil => exact .nil
  | cons piece pieces induction => exact .cons piece induction

theorem append (first : Inset pieces others) (second : Inset more further) :
    Inset (pieces ++ more) (others ++ further) := by
  induction first with
  | nil => exact second
  | cons piece _ induction => exact .cons piece induction
  | feed blank onLine _ induction =>
      rw [List.cons_append, List.cons_append, List.append_assoc]
      exact .feed blank onLine induction

theorem indent (blank : ∀ character ∈ inset, Text.isBlank character = true) (onLine : '\n' ∉ inset)
    (value : List Char) : Inset (chars value) (chars (indent inset value)) := by
  induction value with
  | nil => exact .nil
  | cons character value induction =>
      by_cases feed : character = '\n'
      · subst feed
        have split : Template.indent inset ('\n' :: value) =
            '\n' :: (inset ++ Template.indent inset value) := by
          simp [Template.indent]
        rw [split]
        simpa [chars] using Inset.feed blank onLine induction
      · have split : Template.indent inset (character :: value) =
            character :: Template.indent inset value := by
          simp [Template.indent, feed]
        rw [split]
        exact .cons _ induction

theorem inserted (onLine : '\n' ∉ line) (value : List Char) :
    Inset (chars value) (chars (inserted line value)) := by
  unfold Template.inserted
  split
  · next blank =>
    refine indent (fun character member => ?_) (by simpa using onLine) value
    exact List.all_eq_true.mp blank character (List.mem_reverse.mp member)
  · exact refl _

/-- Filling one placeholder keeps the relation to the pieces into which the value is put as it
is. -/
theorem fill (related : Inset pieces others) (onLine : '\n' ∉ line) :
    Inset (Piece.putAll [(placeholder, value)] pieces)
      (Piece.fill placeholder value line others) := by
  induction related generalizing line with
  | nil => exact .nil
  | cons piece _ induction =>
      cases piece with
      | char character => exact .cons _ (induction (feed_not_mem_continueLine onLine _))
      | hole other =>
          rw [Piece.putAll_cons_hole, Piece.fill]
          by_cases same : other = placeholder
          · subst same
            simpa [Piece.put, List.lookup_cons] using
              (inserted onLine value).append (induction (feed_not_mem_continueLine onLine _))
          · simpa [Piece.put, List.lookup_cons, beq_eq_false_iff_ne.mpr same, same] using
              Inset.cons (.hole other) (induction (feed_not_mem_continueLine onLine _))
  | feed blank onInset _ induction =>
      rw [Piece.fill, Piece.fill_append, Piece.fill_chars]
      exact .feed blank onInset (induction (feed_not_mem_continueLine
        (feed_not_mem_continueLine onLine _) _))

theorem fillAll (related : Inset pieces others) :
    Inset (Piece.putAll fills pieces) (Piece.fillAll fills others) := by
  induction fills generalizing pieces others with
  | nil => rwa [Piece.putAll_nil]
  | cons given fills induction =>
      rw [Piece.putAll_cons, Piece.fillAll_cons]
      exact induction (related.fill (by simp))

/-- Indentations do not matter to lines without the white space around them. -/
theorem trimmedLines (related : Inset pieces others) :
    Text.trimmedLines (flat pieces) = Text.trimmedLines (flat others) := by
  -- The start of the line has to be carried along: white space within a line does matter.
  suffices behind : ∀ start, '\n' ∉ start →
      Text.trimmedLines (start ++ flat pieces) = Text.trimmedLines (start ++ flat others) from
    behind [] (by simp)
  have newLine : ∀ (start text : List Char), '\n' ∉ start →
      Text.trimmedLines (start ++ '\n' :: text) =
        String.ofList (Text.trimChars start) :: Text.trimmedLines text :=
          fun start text onLine => by
    rw [Text.trimmedLines, Text.splitLines_append_feed, Text.splitLines_of_line onLine]
    rfl
  induction related with
  | nil => exact fun _ _ => rfl
  | @cons pieces others piece related induction =>
      intro start onLine
      by_cases feed : piece.text = ['\n']
      · rw [Piece.flat_cons, Piece.flat_cons, feed, List.singleton_append, List.singleton_append,
          newLine _ _ onLine, newLine _ _ onLine]
        exact congrArg _ (induction [] (by simp))
      · have onPiece : '\n' ∉ piece.text := by
          cases piece with
          | char character => simpa [Piece.text, eq_comm] using feed
          | hole placeholder => exact feed_not_mem_token placeholder
        rw [Piece.flat_cons, Piece.flat_cons, ← List.append_assoc, ← List.append_assoc]
        exact induction (start ++ piece.text) (by simp [onLine, onPiece])
  | @feed inset pieces others blank onInset related induction =>
      intro start onLine
      rw [Piece.flat_cons, Piece.flat_cons, Piece.flat_append, Piece.flat_chars]
      simp only [Piece.text, List.singleton_append]
      rw [newLine _ _ onLine, newLine _ _ onLine, Text.trimmedLines_inset blank onInset]
      exact congrArg _ (induction [] (by simp))

end Inset

end FacetedQuery.Template
