import FacetedQuery.Sparql.Token

/-!
# Lexemes

What single tokens take from a text.  A token takes at least one character, so reading makes
progress, and it never ends in a backslash, so nothing that follows a text can turn its last
character into half of an escape.
-/

namespace FacetedQuery.Sparql.Token

/-- A reader has taken the text up to a rest and did not end in a backslash. -/
def Leaves (rest text : List Char) : Prop :=
  ∃ taken, text = taken ++ rest ∧ taken.getLast? ≠ some '\\'

theorem Leaves.refl (text : List Char) : Leaves text text :=
  ⟨[], rfl, by simp⟩

theorem Leaves.cons {character : Char} {rest text : List Char} (leaves : Leaves rest text)
    (plain : character ≠ '\\') : Leaves rest (character :: text) := by
  obtain ⟨taken, rfl, last⟩ := leaves
  refine ⟨character :: taken, rfl, ?_⟩
  cases taken with
  | nil => simpa using plain
  | cons first taken => simpa [List.getLast?_cons_cons] using last

theorem Leaves.append {rest text : List Char} (leaves : Leaves rest text)
    (taken : List Char) (last : taken.getLast? ≠ some '\\') :
    Leaves rest (taken ++ text) := by
  obtain ⟨more, rfl, moreLast⟩ := leaves
  refine ⟨taken ++ more, by simp, ?_⟩
  cases more with
  | nil => simpa using last
  | cons first more =>
      simpa [List.getLast?_append] using moreLast

theorem Leaves.escaped {character : Char} {rest text : List Char} (leaves : Leaves rest text)
    (plain : character ≠ '\\') : Leaves rest ('\\' :: character :: text) := by
  simpa using leaves.append ['\\', character] (by simpa using plain)

theorem Leaves.dropWhile {inRun : Char → Bool} (plain : inRun '\\' = false)
    (text : List Char) : Leaves (text.dropWhile inRun) text := by
  induction text with
  | nil => exact .refl []
  | cons character text induction =>
      by_cases inside : inRun character = true
      · have different : character ≠ '\\' := by
          rintro rfl
          simp [plain] at inside
        simpa [inside] using induction.cons different
      · simpa [inside] using Leaves.refl (character :: text)

theorem readIri?_leaves {text rest : List Char} {token : Token}
    (read : readIri? text = some (token, rest)) : Leaves rest text := by
  unfold readIri? at read
  split at read
  · next dropped =>
      obtain ⟨-, rfl⟩ := Prod.mk.inj (Option.some.inj read)
      obtain ⟨taken, whole, last⟩ : Leaves (text.dropWhile (!isIriExcluded ·)) text :=
        Leaves.dropWhile (by decide) text
      refine ⟨taken ++ ['>'], ?_, by simp⟩
      rw [dropped] at whole
      simpa using whole
  · cases read

/-- A string on one line ends with its quote. -/
theorem readShort?_ends {quote : Char} {text value rest : List Char}
    (read : readShort? quote text = some (value, rest)) :
    ∃ taken, text = taken ++ quote :: rest := by
  fun_induction readShort? quote text generalizing value with
  | case1 => cases read
  | case2 letter after character escape induction =>
      obtain ⟨⟨inner, after'⟩, readAfter, equality⟩ := Option.map_eq_some_iff.mp read
      cases equality
      obtain ⟨taken, rfl⟩ := induction readAfter
      exact ⟨'\\' :: letter :: taken, rfl⟩
  | case3 => cases read
  | case4 character after _ same =>
      cases read
      obtain rfl := eq_of_beq same
      exact ⟨[], rfl⟩
  | case5 => cases read
  | case6 character after _ different plain induction =>
      obtain ⟨⟨inner, after'⟩, readAfter, equality⟩ := Option.map_eq_some_iff.mp read
      cases equality
      obtain ⟨taken, rfl⟩ := induction readAfter
      exact ⟨character :: taken, rfl⟩

/-- A string on several lines ends with three quotes. -/
theorem readLong?_ends {quote : Char} {text value rest : List Char}
    (read : readLong? quote text = some (value, rest)) :
    ∃ taken, text = taken ++ quote :: quote :: quote :: rest := by
  fun_induction readLong? quote text generalizing value with
  | case1 => cases read
  | case2 letter after character escape induction =>
      obtain ⟨⟨inner, after'⟩, readAfter, equality⟩ := Option.map_eq_some_iff.mp read
      cases equality
      obtain ⟨taken, rfl⟩ := induction readAfter
      exact ⟨'\\' :: letter :: taken, rfl⟩
  | case3 => cases read
  | case4 character after _ quotes =>
      cases read
      obtain ⟨last, whole⟩ := List.isPrefixOf_iff_prefix.mp quotes
      cases whole
      exact ⟨[], by simp⟩
  | case5 => cases read
  | case6 character after _ different plain induction =>
      obtain ⟨⟨inner, after'⟩, readAfter, equality⟩ := Option.map_eq_some_iff.mp read
      cases equality
      obtain ⟨taken, rfl⟩ := induction readAfter
      exact ⟨character :: taken, rfl⟩

theorem Leaves.ofEnd {quote : Char} (plain : quote ≠ '\\') (taken rest : List Char) :
    Leaves rest (taken ++ quote :: rest) :=
  ⟨taken ++ [quote], by simp, by simpa using plain⟩

theorem readString?_leaves {quote : Char} {text rest : List Char} {token : Token}
    (plain : quote ≠ '\\') (read : readString? quote text = some (token, rest)) :
    Leaves rest text := by
  obtain ⟨⟨value, after⟩, readBody, equality⟩ := Option.map_eq_some_iff.mp read
  cases equality
  split at readBody
  · next quotes =>
      obtain ⟨taken, whole⟩ := readLong?_ends readBody
      obtain ⟨body, rfl⟩ := List.isPrefixOf_iff_prefix.mp quotes
      have dropped : body = taken ++ quote :: quote :: quote :: after := by simpa using whole
      subst dropped
      simpa using Leaves.ofEnd plain (quote :: quote :: (taken ++ [quote, quote])) after
  · obtain ⟨taken, rfl⟩ := readShort?_ends readBody
    exact Leaves.ofEnd plain taken after

theorem readLanguage?_leaves {text rest : List Char} {token : Token}
    (read : readLanguage? text = some (token, rest)) : Leaves rest text := by
  unfold readLanguage? at read
  split at read
  · split at read
    · cases read
      exact Leaves.dropWhile (by decide) _
    · cases read
  · cases read

theorem readVar?_leaves {text rest : List Char} {token : Token}
    (read : readVar? text = some (token, rest)) : Leaves rest text := by
  unfold readVar? at read
  split at read
  · split at read
    · cases read
      exact Leaves.dropWhile (by decide) _
    · cases read
  · cases read

theorem append_drop_of_isPrefix {taken text : List Char} (isPrefix : taken <+: text) :
    taken ++ text.drop taken.length = text := by
  obtain ⟨last, rfl⟩ := isPrefix
  simp

theorem filter_take_one_append (accepted : Char → Bool) (text : List Char) :
    (text.take 1).filter accepted ++ text.drop ((text.take 1).filter accepted).length = text := by
  cases text with
  | nil => rfl
  | cons character text =>
      by_cases inside : accepted character = true
      · simp [inside]
      · simp [inside]

theorem exponentOf_isPrefix (text : List Char) : exponentOf text <+: text := by
  unfold exponentOf
  split
  · next letter rest =>
      simp only
      split
      · split
        · exact List.nil_prefix
        · have whole := filter_take_one_append (fun c => c == '+' || c == '-') rest
          rw [List.cons_append, List.cons_prefix_cons]
          refine ⟨rfl, ?_⟩
          calc
            _ <+: _ := (List.prefix_append_right_inj _).mpr (List.takeWhile_prefix _)
            _ = rest := whole
      · exact List.nil_prefix
  · exact List.nil_prefix

theorem numberOf_isPrefix (text : List Char) : numberOf text <+: text := by
  have split : text.takeWhile Char.isDigit ++ text.dropWhile Char.isDigit = text :=
    List.takeWhile_append_dropWhile
  unfold numberOf
  simp only
  split
  · next rest dropped =>
      split
      · obtain ⟨last, equality⟩ := exponentOf_isPrefix (rest.dropWhile Char.isDigit)
        refine ⟨last, ?_⟩
        calc
          _ = text.takeWhile Char.isDigit ++ '.' :: (rest.takeWhile Char.isDigit ++
                (exponentOf (rest.dropWhile Char.isDigit) ++ last)) := by simp
          _ = text := by rw [equality, List.takeWhile_append_dropWhile, ← dropped, split]
      · exact List.takeWhile_prefix _
  · split
    · exact List.nil_prefix
    · obtain ⟨last, equality⟩ := exponentOf_isPrefix (text.dropWhile Char.isDigit)
      exact ⟨last, by rw [List.append_assoc, equality, split]⟩

/-- The characters of numbers. -/
def isNumberChar (character : Char) : Bool :=
  character.isDigit || character == '.' || character == 'e' || character == 'E' ||
    character == '+' || character == '-'

theorem isNumberChar_of_mem_takeWhile {character : Char} {text : List Char}
    (member : character ∈ text.takeWhile Char.isDigit) : isNumberChar character = true := by
  have digit := List.all_eq_true.mp (List.all_takeWhile (p := Char.isDigit) (l := text))
    character member
  simp [isNumberChar, digit]

theorem isNumberChar_of_mem_exponentOf {text : List Char} :
    ∀ character ∈ exponentOf text, isNumberChar character = true := by
  intro character member
  unfold exponentOf at member
  split at member
  · next letter rest =>
      simp only at member
      split at member
      · next mark =>
          split at member
          · cases member
          · rw [List.cons_append, List.mem_cons, List.mem_append] at member
            rcases member with rfl | inSign | inRow
            · simp only [Bool.or_eq_true, beq_iff_eq] at mark
              rcases mark with rfl | rfl <;> decide
            · have sign := (List.mem_filter.mp inSign).2
              simp only [Bool.or_eq_true, beq_iff_eq] at sign
              rcases sign with rfl | rfl <;> decide
            · exact isNumberChar_of_mem_takeWhile inRow
      · cases member
  · cases member

theorem isNumberChar_of_mem_numberOf {text : List Char} :
    ∀ character ∈ numberOf text, isNumberChar character = true := by
  intro character member
  unfold numberOf at member
  simp only at member
  split at member
  · split at member
    · rw [List.append_assoc, List.cons_append, List.mem_append, List.mem_cons, List.mem_append]
        at member
      rcases member with inWhole | rfl | inFraction | inExponent
      · exact isNumberChar_of_mem_takeWhile inWhole
      · decide
      · exact isNumberChar_of_mem_takeWhile inFraction
      · exact isNumberChar_of_mem_exponentOf character inExponent
    · exact isNumberChar_of_mem_takeWhile member
  · split at member
    · cases member
    · rw [List.mem_append] at member
      rcases member with inWhole | inExponent
      · exact isNumberChar_of_mem_takeWhile inWhole
      · exact isNumberChar_of_mem_exponentOf character inExponent

theorem Leaves.ofPlain {taken : List Char} (plain : '\\' ∉ taken) (rest : List Char) :
    Leaves rest (taken ++ rest) := by
  refine ⟨taken, rfl, ?_⟩
  intro last
  exact plain (List.mem_of_getLast? last)

theorem readNumber?_takes {sign : NumberSign} {text rest : List Char} {token : Token}
    (read : readNumber? sign text = some (token, rest)) :
    ∃ taken, text = taken ++ rest ∧ taken ≠ [] ∧ '\\' ∉ taken := by
  unfold readNumber? at read
  split at read
  · cases read
  · next row notEmpty =>
      cases read
      refine ⟨numberOf text, (append_drop_of_isPrefix (numberOf_isPrefix text)).symm,
        by simpa using notEmpty, ?_⟩
      · intro member
        have inNumber := isNumberChar_of_mem_numberOf '\\' member
        revert inNumber
        decide

theorem readLocal_leaves (text : List Char) : Leaves (readLocal text).2 text := by
  fun_induction readLocal text with
  | case1 => exact .refl []
  | case2 character rest escape result induction =>
      exact induction.escaped (by rintro rfl; revert escape; decide)
  | case3 character rest => exact .refl _
  | case4 character rest single continues result induction =>
      refine induction.cons ?_
      rintro rfl
      cases rest with
      | nil => revert continues; decide
      | cons next rest => exact single next rest rfl rfl
  | case5 => exact .refl _

theorem readPrefixed_leaves {space text rest : List Char} {token : Token}
    (read : readPrefixed space text = (token, rest)) : Leaves rest text := by
  obtain ⟨-, rfl⟩ := Prod.mk.inj read
  split
  · exact readLocal_leaves text
  · exact .refl text

theorem readWord?_takes {text rest : List Char} {token : Token}
    (read : readName?.readWord? text = some (token, rest)) :
    ∃ taken, text = taken ++ rest ∧ taken ≠ [] ∧ '\\' ∉ taken := by
  unfold readName?.readWord? at read
  split at read
  · cases read
  · next run notEmpty =>
      cases read
      refine ⟨text.takeWhile isWordChar,
        (append_drop_of_isPrefix (List.takeWhile_prefix isWordChar)).symm,
        by simpa using notEmpty, ?_⟩
      · intro member
        have inWord := List.all_eq_true.mp (List.all_takeWhile (p := isWordChar) (l := text))
          '\\' member
        revert inWord
        decide

/-- The characters of the names of prefixes and of labels. -/
def isRunChar (character : Char) : Bool :=
  character == '.' || isNameChar character

theorem readName?_eq (text : List Char) :
    readName? text =
      match text.dropWhile isRunChar with
      | ':' :: rest =>
        if isPrefixName (text.takeWhile isRunChar) then
          some (readPrefixed (text.takeWhile isRunChar) rest)
        else readName?.readWord? text
      | _ => readName?.readWord? text := by
  rfl

/-- A reader has taken at least one character and did not end in a backslash. -/
def Advances (rest text : List Char) : Prop :=
  ∃ taken, text = taken ++ rest ∧ taken ≠ [] ∧ taken.getLast? ≠ some '\\'

theorem Advances.ofPlain {text rest : List Char}
    (takes : ∃ taken, text = taken ++ rest ∧ taken ≠ [] ∧ '\\' ∉ taken) : Advances rest text := by
  obtain ⟨taken, whole, notEmpty, plain⟩ := takes
  exact ⟨taken, whole, notEmpty, fun last => plain (List.mem_of_getLast? last)⟩

theorem Leaves.advances {first : Char} {rest tail : List Char} (leaves : Leaves rest tail)
    (plain : first ≠ '\\') : Advances rest (first :: tail) := by
  obtain ⟨taken, rfl, last⟩ := leaves
  refine ⟨first :: taken, rfl, by simp, ?_⟩
  cases taken with
  | nil => simpa using plain
  | cons second taken => simpa [List.getLast?_cons_cons] using last

theorem readName?_advances {text rest : List Char} {token : Token}
    (read : readName? text = some (token, rest)) : Advances rest text := by
  rw [readName?_eq] at read
  split at read
  · next after dropped =>
      split at read
      · have split : text.takeWhile isRunChar ++ text.dropWhile isRunChar = text :=
          List.takeWhile_append_dropWhile
        obtain ⟨taken, whole, last⟩ := readPrefixed_leaves (Option.some.inj read)
        refine ⟨text.takeWhile isRunChar ++ ':' :: taken, ?_, by simp, ?_⟩
        · rw [dropped, whole] at split
          simpa using split.symm
        · cases taken with
          | nil => simp
          | cons first taken => simpa [List.getLast?_append, List.getLast?_cons_cons] using last
      · exact .ofPlain (readWord?_takes read)
  · exact .ofPlain (readWord?_takes read)

theorem splitPoints_append (run rest : List Char) :
    (splitPoints run rest).1 ++ (splitPoints run rest).2 = run ++ rest := by
  unfold splitPoints
  have points : (run.reverse.takeWhile (· == '.')).reverse = run.reverse.takeWhile (· == '.') := by
    have all : ∀ character ∈ run.reverse.takeWhile (· == '.'), character = '.' := by
      intro character member
      simpa using List.all_eq_true.mp (List.all_takeWhile (p := (· == '.')) (l := run.reverse))
        character member
    rw [List.eq_replicate_of_mem all, List.reverse_replicate]
  have split := congrArg List.reverse
    (List.takeWhile_append_dropWhile (p := (· == '.')) (l := run.reverse))
  rw [List.reverse_append, List.reverse_reverse, points] at split
  simp only
  rw [← List.append_assoc, split]

theorem readBlank?_leaves {text rest : List Char} {token : Token}
    (read : readBlank? text = some (token, rest)) :
    ∃ taken, text = taken ++ rest ∧ '\\' ∉ taken := by
  unfold readBlank? at read
  split at read
  · simp only at read
    split at read
    · next first body _ =>
        cases read
        have split := splitPoints_append ((first :: body).takeWhile isRunChar)
          ((first :: body).dropWhile isRunChar)
        rw [List.takeWhile_append_dropWhile] at split
        refine ⟨_, split.symm, ?_⟩
        intro member
        have inReverse := (List.dropWhile_sublist _).subset (List.mem_reverse.mp member)
        have inRun := List.all_eq_true.mp
          (List.all_takeWhile (p := isRunChar) (l := first :: body)) '\\'
          (List.mem_reverse.mp inReverse)
        revert inRun
        decide
    · cases read
  · cases read

theorem readMark?_takes {text rest : List Char} {mark : Mark}
    (read : readMark? text = some (mark, rest)) :
    ∃ taken, text = taken ++ rest ∧ taken ≠ [] ∧ '\\' ∉ taken := by
  unfold readMark? at read
  split at read
  all_goals first
    | (cases read; exact ⟨[_], rfl, by simp, by decide⟩)
    | (cases read; exact ⟨[_, _], rfl, by simp, by decide⟩)
    | cases read

theorem readMarkToken?_advances {text rest : List Char} {token : Token}
    (read : readMarkToken? text = some (token, rest)) : Advances rest text := by
  obtain ⟨⟨mark, after⟩, marked, equality⟩ := Option.map_eq_some_iff.mp read
  cases equality
  exact .ofPlain (readMark?_takes marked)

theorem readNumber?_advances {first : Char} {tail rest : List Char} {sign : NumberSign}
    {token : Token} (plain : first ≠ '\\') (read : readNumber? sign tail = some (token, rest)) :
    Advances rest (first :: tail) := by
  obtain ⟨taken, rfl, -, plainTaken⟩ := readNumber?_takes read
  exact (Leaves.ofPlain plainTaken rest).advances plain

/-- A token takes at least one character and does not end in a backslash. -/
theorem readToken?_advances {text rest : List Char} {token : Token}
    (read : readToken? text = some (token, rest)) : Advances rest text := by
  unfold readToken? at read
  split at read
  · cases read
  · rcases Option.or_eq_some_iff.mp read with iri | ⟨-, mark⟩
    · exact (readIri?_leaves iri).advances (by decide)
    · exact readMarkToken?_advances mark
  · exact (readString?_leaves (by decide) read).advances (by decide)
  · exact (readString?_leaves (by decide) read).advances (by decide)
  · exact (readLanguage?_leaves read).advances (by decide)
  · rcases Option.or_eq_some_iff.mp read with var | ⟨-, mark⟩
    · exact (readVar?_leaves var).advances (by decide)
    · exact readMarkToken?_advances mark
  · exact (readVar?_leaves read).advances (by decide)
  · obtain ⟨taken, rfl, plain⟩ := readBlank?_leaves read
    exact ((Leaves.ofPlain plain rest).cons (by decide)).advances (by decide)
  · exact (readPrefixed_leaves (Option.some.inj read)).advances (by decide)
  · rcases Option.or_eq_some_iff.mp read with number | ⟨-, mark⟩
    · exact readNumber?_advances (by decide) number
    · exact readMarkToken?_advances mark
  · rcases Option.or_eq_some_iff.mp read with number | ⟨-, mark⟩
    · exact readNumber?_advances (by decide) number
    · exact readMarkToken?_advances mark
  · rcases Option.or_eq_some_iff.mp read with number | ⟨-, mark⟩
    · exact .ofPlain (readNumber?_takes number)
    · exact readMarkToken?_advances mark
  · split at read
    · exact .ofPlain (readNumber?_takes read)
    · split at read
      · exact readName?_advances read
      · exact readMarkToken?_advances read

/-- Reading a token leaves less text. -/
theorem readToken?_length_lt {text rest : List Char} {token : Token}
    (read : readToken? text = some (token, rest)) : rest.length < text.length := by
  obtain ⟨taken, rfl, notEmpty, -⟩ := readToken?_advances read
  have positive := List.length_pos_iff.mpr notEmpty
  simp only [List.length_append]
  omega

end FacetedQuery.Sparql.Token
