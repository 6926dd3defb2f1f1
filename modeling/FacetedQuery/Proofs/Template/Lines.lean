import FacetedQuery.Proofs.Template.Layout

/-!
# The lines of filled templates

Which lines a finished text has.  Each line of a template becomes lines of its own: itself, if it
holds no placeholder, or the lines of a value behind the same indentation.  White space at their
ends is removed from all of them.
-/

namespace FacetedQuery

namespace Text

/-- Every text is one line, or a line in front of another text. -/
theorem lineInduction {motive : List Char → Prop} (line : ∀ text, '\n' ∉ text → motive text)
    (feed : ∀ text rest, '\n' ∉ text → motive rest → motive (text ++ '\n' :: rest))
    (text : List Char) : motive text := by
  induction length : text.length using Nat.strongRecOn generalizing text with
  | ind length induction =>
      subst length
      by_cases member : '\n' ∈ text
      · obtain ⟨first, rest, rfl, onLine⟩ := List.eq_append_cons_of_mem member
        exact feed first rest onLine (induction rest.length (by simp; omega) rest rfl)
      · exact line text member

theorem splitLines_of_line {text : List Char} (onLine : '\n' ∉ text) :
    splitLines text = [text] := by
  induction text with
  | nil => rfl
  | cons character text induction =>
      simp only [List.mem_cons, not_or] at onLine
      rw [splitLines, induction onLine.2]
      exact Ne.symm onLine.1

theorem splitLines_append_feed (text rest : List Char) :
    splitLines (text ++ '\n' :: rest) = splitLines text ++ splitLines rest := by
  induction text with
  | nil => rfl
  | cons character text induction =>
      obtain ⟨line, lines, split, -⟩ := exists_splitLines text
      by_cases feed : character = '\n'
      · subst feed
        rw [List.cons_append, splitLines, splitLines, induction]
        rfl
      · rw [List.cons_append, splitLines, splitLines, induction, split]
        · rfl
        · exact feed
        · exact feed

theorem feed_not_mem_trimEnd {line : List Char} (onLine : '\n' ∉ line) : '\n' ∉ trimEnd line := by
  unfold trimEnd trimStart
  intro member
  have inside := (List.dropWhile_sublist isBlank).subset (List.mem_reverse.mp member)
  exact onLine (List.mem_reverse.mp inside)

theorem trimEnd_of_closed {text : List Char} (closed : Closed text) : trimEnd text = text := by
  cases split : text.getLast? with
  | none =>
      obtain rfl := List.getLast?_eq_none_iff.mp split
      rfl
  | some last =>
      obtain ⟨before, rfl⟩ := List.getLast?_eq_some_iff.mp split
      have shown : isBlank last = false := closed last (by simp)
      simp [trimEnd, trimStart, shown]

/-- The lines in front of a line end are trimmed one by one. -/
theorem splitLines_trimFinished (text after : List Char) :
    splitLines (trimFinished (text ++ ['\n']) ++ after) =
      (splitLines text).map trimEnd ++ splitLines after := by
  induction text using lineInduction with
  | line text onLine =>
      rw [trimFinished_feed onLine, splitLines_of_line onLine, List.append_assoc,
        List.cons_append, splitLines_append_feed, splitLines_of_line (feed_not_mem_trimEnd onLine)]
      rfl
  | feed text rest onLine induction =>
      rw [List.append_assoc, List.cons_append, trimFinished_feed onLine, splitLines_append_feed,
        splitLines_of_line onLine, List.append_assoc, List.cons_append, splitLines_append_feed,
        splitLines_of_line (feed_not_mem_trimEnd onLine), induction]
      rfl

theorem closed_trimEnd (text : List Char) : Closed (trimEnd text) := by
  intro character last
  have first : (text.reverse.dropWhile isBlank).head? = some character := by
    simpa [trimEnd, trimStart] using last
  have shown := List.head?_dropWhile_not isBlank text.reverse
  rw [first] at shown
  exact shown

theorem trimStart_trimEnd (text : List Char) : trimStart (trimEnd text) =
    trimEnd (trimStart text) := by
  induction text with
  | nil => rfl
  | cons character text induction =>
      rw [trimEnd_cons]
      by_cases blank : isBlank character = true
      · have dropped : trimStart (character :: text) = trimStart text := by simp [trimStart, blank]
        rw [dropped, ← induction]
        split
        · next all =>
          rw [blank, Bool.true_and] at all
          rw [trimEnd_eq_nil all]
        · simp [trimStart, blank]
      · simp [trimStart, blank, trimEnd_cons]

theorem trimChars_trimEnd (text : List Char) : trimChars (trimEnd text) = trimChars text := by
  rw [trimChars, trimStart_trimEnd, trimEnd_of_closed (closed_trimEnd _), trimChars]

theorem strip_of_line {line : List Char} (onLine : '\n' ∉ line) (closed : Closed line) :
    strip line = line := by
  rw [Template.strip_of_closed closed, trimFinished_of_line onLine]

/-- The lines of a text. -/
def linesOf (text : String) : List String :=
  (splitLines text.toList).map String.ofList

theorem linesOf_append_feed (text rest : String) :
    linesOf (text ++ "\n" ++ rest) = linesOf text ++ linesOf rest := by
  have split : (text ++ "\n" ++ rest).toList = text.toList ++ '\n' :: rest.toList := by simp
  rw [linesOf, split, splitLines_append_feed, List.map_append]
  rfl

def trimmedLines (text : List Char) : List String :=
  (splitLines text).map fun line => String.ofList (trimChars line)

theorem map_trim_linesOf (text : String) : (linesOf text).map trim = trimmedLines text.toList := by
  simp [linesOf, trimmedLines, trim]

variable {inset : List Char}

theorem trimmedLines_inset (blank : ∀ character ∈ inset, isBlank character = true)
    (onLine : '\n' ∉ inset) (text : List Char) :
    trimmedLines (inset ++ text) = trimmedLines text := by
  have trimmed : ∀ line, trimChars (inset ++ line) = trimChars line := fun line => by
    rw [trimChars, trimChars, trimStart, trimStart, List.dropWhile_append_of_pos blank]
  induction text using lineInduction with
  | line text isLine =>
      have whole : '\n' ∉ inset ++ text := by simp [onLine, isLine]
      simp [trimmedLines, splitLines_of_line isLine, splitLines_of_line whole, trimmed]
  | feed text rest isLine _ =>
      have whole : '\n' ∉ inset ++ text := by simp [onLine, isLine]
      rw [trimmedLines, trimmedLines, ← List.append_assoc, splitLines_append_feed,
        splitLines_append_feed, splitLines_of_line whole, splitLines_of_line isLine]
      simp [trimmed]

/-- An indentation does not matter. -/
theorem trimmedLines_indent (blank : ∀ character ∈ inset, isBlank character = true)
    (onLine : '\n' ∉ inset) (text : List Char) :
    trimmedLines (Template.indent inset text) = trimmedLines text := by
  induction text using lineInduction with
  | line text isLine => rw [indent_of_line isLine]
  | feed text rest isLine induction =>
      have further := (trimmedLines_inset blank onLine (Template.indent inset rest)).trans induction
      unfold trimmedLines at further ⊢
      rw [indent_feed isLine, splitLines_append_feed, splitLines_append_feed, List.map_append,
        List.map_append, further]

end Text

namespace Template

variable {fills firsts lasts : List (Placeholder × List Char)} {placeholder : Placeholder}

theorem ofText_eq {name text : String} (starts : text.toList.head? ≠ some '\n') :
    ofText name text = ⟨name, fillAll [] text.toList⟩ :=
  congrArg (Template.mk name) (@text_ofText name text starts)

theorem fill_fillAll (name : String) (fills : List (Placeholder × List Char)) (text : List Char)
    (placeholder : Placeholder) (value : String) :
    (Template.mk name (fillAll fills text)).fill placeholder value =
      ⟨name, fillAll (fills ++ [(placeholder, value.toList)]) text⟩ := by
  simp [fill, fillAll]

/-- The lines that a line of a template becomes. -/
def filledLines (fills : List (Placeholder × List Char)) (line : String) : List String :=
  (Text.splitLines (fillAll fills line.toList)).map fun line => String.ofList (Text.trimEnd line)

/-- A line without placeholders and without white space at its end. -/
structure Fixed (line : String) : Prop where
  plain : '<' ∉ line.toList
  onLine : '\n' ∉ line.toList
  closed : Text.Closed line.toList

instance (line : String) : Decidable (Fixed line) :=
  decidable_of_iff ('<' ∉ line.toList ∧ '\n' ∉ line.toList ∧ Text.Closed line.toList)
    ⟨fun ⟨plain, onLine, closed⟩ => ⟨plain, onLine, closed⟩,
      fun fixed => ⟨fixed.plain, fixed.onLine, fixed.closed⟩⟩

theorem filledLines_of_line {line : String} {filled : List Char}
    (same : fillAll fills line.toList = filled) (onLine : '\n' ∉ filled)
    (closed : Text.Closed filled) : filledLines fills line = [String.ofList filled] := by
  rw [filledLines, same, Text.splitLines_of_line onLine, List.map_singleton,
    Text.trimEnd_of_closed closed]

theorem filledLines_fixed {line : String} (fixed : Fixed line) :
    filledLines fills line = [line] := by
  rw [filledLines_of_line (fillAll_of_free (free_of_not_mem fixed.plain) fills) fixed.onLine
    fixed.closed, String.ofList_toList]

theorem flatMap_fixed {lines : List String} (fixed : ∀ line ∈ lines, Fixed line) :
    lines.flatMap (filledLines fills) = lines := by
  induction lines with
  | nil => rfl
  | cons line lines induction =>
      rw [List.flatMap_cons, filledLines_fixed (fixed line (by simp)),
        induction fun other member => fixed other (by simp [member])]
      rfl

/-- A value on one line takes the place of its placeholder. -/
theorem fillAll_value {before value after line : String}
    (given : fills.lookup placeholder = some value.toList)
    (isLine : line = before ++ placeholder.token ++ after) (plainBefore : '<' ∉ before.toList)
    (plainAfter : '<' ∉ after.toList) (fixed : Fixed (before ++ value ++ after)) :
    fillAll fills line.toList = (before ++ value ++ after).toList := by
  obtain ⟨firsts, lasts, rfl, apart⟩ := exists_first given
  subst isLine
  have isText : (before ++ value ++ after).toList =
      before.toList ++ (value.toList ++ after.toList) := by simp
  have onLine := fixed.onLine
  have free := free_of_not_mem fixed.plain
  rw [isText] at onLine free ⊢
  have filled := @fillAll_inline firsts lasts placeholder value.toList before.toList after.toList
    apart plainBefore plainAfter (fun member => onLine (by simp [member])) free
  simpa using filled

theorem filledLines_value {before value after line : String}
    (given : fills.lookup placeholder = some value.toList)
    (isLine : line = before ++ placeholder.token ++ after) (plainBefore : '<' ∉ before.toList)
    (plainAfter : '<' ∉ after.toList) (fixed : Fixed (before ++ value ++ after)) :
    filledLines fills line = [before ++ value ++ after] := by
  rw [filledLines_of_line (fillAll_value given isLine plainBefore plainAfter fixed) fixed.onLine
    fixed.closed, String.ofList_toList]

theorem filledLines_slot {placeholder : Placeholder} {indentation value line : String}
    (given : fills.lookup placeholder = some value.toList)
    (isLine : line = indentation ++ placeholder.token) (plain : '<' ∉ indentation.toList)
    (fixed : Fixed (indentation ++ value)) : filledLines fills line = [indentation ++ value] := by
  simpa using filledLines_value given (show line = indentation ++ placeholder.token ++ "" by
    simpa using isLine) plain (by simp) (by simpa using fixed)

theorem toList_join_append (line last : String) (lines : List String) :
    (Text.join "\n" (line :: lines ++ [last])).toList =
      line.toList ++ '\n' :: (Text.join "\n" (lines ++ [last])).toList := by
  cases lines <;> exact Sheet.toList_join_cons _ _ _

/-- A finished text has the lines of its template, filled, and a last one. -/
theorem linesOf_strip {last closing : String} (filled : fillAll fills last.toList = closing.toList)
    (onLine : '\n' ∉ closing.toList) (closed : Text.Closed closing.toList) (nonempty : closing ≠ "")
    (lines : List String) :
    Text.linesOf (String.ofList (Text.strip (fillAll fills
      (Text.join "\n" (lines ++ [last])).toList))) =
        lines.flatMap (filledLines fills) ++ [closing] := by
  -- What follows a line is not empty, so that its end is not the end of the text.
  suffices both : fillAll fills (Text.join "\n" (lines ++ [last])).toList ≠ [] ∧
      Text.splitLines (Text.strip (fillAll fills (Text.join "\n" (lines ++ [last])).toList)) =
        (lines.flatMap (filledLines fills) ++ [closing]).map String.toList by
    rw [Text.linesOf, String.toList_ofList, both.2, List.map_map]
    simp [Function.comp_def]
  induction lines with
  | nil =>
      have same : (Text.join "\n" [last]).toList = last.toList := rfl
      rw [List.nil_append, same, filled]
      refine ⟨fun nothing => nonempty (String.toList_inj.mp nothing), ?_⟩
      rw [Text.strip_of_line onLine closed, Text.splitLines_of_line onLine]
      rfl
  | cons line lines induction =>
      obtain ⟨nonempty, further⟩ := induction
      rw [toList_join_append, fillAll_feed]
      refine ⟨by simp, ?_⟩
      rw [Text.strip_append_feed _ nonempty, Text.splitLines_trimFinished, further]
      simp [filledLines, Function.comp_def]

theorem map_trim_filledLines (fills : List (Placeholder × List Char)) (line : String) :
    (filledLines fills line).map Text.trim = Text.trimmedLines (fillAll fills line.toList) := by
  simp [filledLines, Text.trimmedLines, Text.trim, Text.trimChars_trimEnd]

/-- What a line of a template becomes, up to the white space around its lines. -/
structure Shows (fills : List (Placeholder × List Char)) (line : String) (shown : List Char) :
    Prop where
  free : Free (fillAll fills line.toList)
  lines : Text.trimmedLines (fillAll fills line.toList) = Text.trimmedLines shown

theorem Spaces.blank {inset : List Char} (spaces : Spaces inset) :
    ∀ character ∈ inset, Text.isBlank character = true :=
  fun character member => isBlank_of_isSpace (spaces character member)

theorem Shows.plain {inset text line : String} (spaces : Spaces inset.toList)
    (onLine : '\n' ∉ inset.toList) (plain : '<' ∉ text.toList) (isLine : line = inset ++ text) :
    Shows fills line text.toList := by
  have free : Free line.toList := free_of_not_mem (by simp [isLine, spaces.not_mem, plain])
  refine ⟨by rwa [fillAll_of_free free], ?_⟩
  rw [fillAll_of_free free, isLine, String.toList_append,
    Text.trimmedLines_inset spaces.blank onLine]

/-- A value in a place of its own. -/
theorem Shows.slot {inset line : String} {value : List Char}
    (given : fills.lookup placeholder = some value) (free : Free value)
    (spaces : Spaces inset.toList) (onLine : '\n' ∉ inset.toList)
    (isLine : line = inset ++ placeholder.token) : Shows fills line value := by
  obtain ⟨firsts, lasts, rfl, apart⟩ := exists_first given
  have filled : fillAll (firsts ++ (placeholder, value) :: lasts) line.toList =
      inset.toList ++ indent inset.toList value := by
    rw [isLine, String.toList_append, fillAll_slot apart spaces onLine, fillAll_of_free]
    exact free_append_of_not_mem spaces.not_mem (free_indent spaces.not_mem free)
  refine ⟨?_, ?_⟩
  · rw [filled]
    exact free_append_of_not_mem spaces.not_mem (free_indent spaces.not_mem free)
  · rw [filled, Text.trimmedLines_inset spaces.blank onLine,
      Text.trimmedLines_indent spaces.blank onLine]

/-- A value with something visible in front of it. -/
theorem Shows.inline {inset before after line : String} {value : List Char}
    (given : fills.lookup placeholder = some value)
    (free : Free (before.toList ++ (value ++ after.toList))) (spaces : Spaces inset.toList)
    (onLine : '\n' ∉ inset.toList) (plainBefore : '<' ∉ before.toList)
    (lineBefore : '\n' ∉ before.toList) (plainAfter : '<' ∉ after.toList)
    (shown : before.toList.all Text.isBlank = false)
    (isLine : line = inset ++ before ++ placeholder.token ++ after) :
    Shows fills line (before.toList ++ (value ++ after.toList)) := by
  obtain ⟨firsts, lasts, rfl, apart⟩ := exists_first given
  have isText : line.toList =
      (inset ++ before).toList ++ (placeholder.token.toList ++ after.toList) := by simp [isLine]
  have isBefore : '<' ∉ (inset ++ before).toList := by simp [spaces.not_mem, plainBefore]
  have onLineBefore : '\n' ∉ (inset ++ before).toList := by simp [onLine, lineBefore]
  have same : inserted (continueLine [] (inset ++ before).toList) value = value := by
    rw [continueLine_of_line onLineBefore, inserted, if_neg (by simp [shown])]
  have whole : Free ((inset ++ before).toList ++ (value ++ after.toList)) := by
    rw [String.toList_append, List.append_assoc]
    exact free_append_of_not_mem spaces.not_mem free
  have filled : fillAll (firsts ++ (placeholder, value) :: lasts) line.toList =
      inset.toList ++ (before.toList ++ (value ++ after.toList)) := by
    rw [isText, fillAll_line apart isBefore plainAfter, same, fillAll_of_free whole]
    simp
  refine ⟨?_, by rw [filled, Text.trimmedLines_inset spaces.blank onLine]⟩
  rw [filled]
  exact free_append_of_not_mem spaces.not_mem free

end Template

end FacetedQuery
