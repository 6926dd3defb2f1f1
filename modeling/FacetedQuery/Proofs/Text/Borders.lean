import FacetedQuery.Text.Utf8
import Mathlib.Data.List.Infix

/-!
# Borders of characters

The bytes of a text in UTF-8 tell where its characters start.  A start of the text ends at each
border between them and nowhere else, and the last border within a limit ends the longest start that
fits.
-/

namespace FacetedQuery.Text

theorem encodeUtf8_cons (character : Char) (rest : List Char) :
    encodeUtf8 (character :: rest) = String.utf8EncodeChar character ++ encodeUtf8 rest :=
  List.flatMap_cons

theorem encodeUtf8_append (first second : List Char) :
    encodeUtf8 (first ++ second) = encodeUtf8 first ++ encodeUtf8 second :=
  List.flatMap_append

theorem length_encodeUtf8_cons (character : Char) (rest : List Char) :
    (encodeUtf8 (character :: rest)).length = character.utf8Size + (encodeUtf8 rest).length := by
  rw [encodeUtf8_cons, List.length_append, String.length_utf8EncodeChar]

theorem eq_nil_of_length_encodeUtf8 {text : List Char} (empty : (encodeUtf8 text).length = 0) :
    text = [] := by
  cases text with
  | nil => rfl
  | cons character rest =>
      have positive := character.utf8Size_pos
      rw [length_encodeUtf8_cons] at empty
      omega

theorem isPrefix_encodeUtf8 {start text : List Char} (isStart : start <+: text) :
    encodeUtf8 start <+: encodeUtf8 text := by
  obtain ⟨rest, rfl⟩ := isStart
  rw [encodeUtf8_append]
  exact List.prefix_append _ _

theorem prefix_of_length_le {text start other : List Char} (isStart : start <+: text)
    (within : other <+: text) (fewer : (encodeUtf8 other).length ≤ (encodeUtf8 start).length) :
    other <+: start := by
  rcases List.prefix_or_prefix_of_prefix within isStart with shorter | ⟨rest, rfl⟩
  · exact shorter
  · rw [encodeUtf8_append, List.length_append] at fewer
    have isEmpty : rest = [] := eq_nil_of_length_encodeUtf8 (by omega)
    rw [isEmpty, List.append_nil]

/-- The first byte of a character continues none, and all others do. -/
theorem exists_leading (character : Char) :
    ∃ lead others, String.utf8EncodeChar character = lead :: others ∧
      continuesChar lead = false ∧ ∀ byte ∈ others, continuesChar byte = true := by
  have bound : character.val.toNat < 0x110000 := by
    have valid := character.valid
    simp only [UInt32.isValidChar, Nat.isValidChar] at valid
    omega
  fun_cases String.utf8EncodeChar character <;> refine ⟨_, _, rfl, ?_, ?_⟩ <;>
    simp only [continuesChar, List.forall_mem_cons, List.not_mem_nil, false_imp_iff, implies_true,
      UInt8.toNat_ofNat', Bool.and_eq_true, Bool.and_eq_false_iff, decide_eq_true_eq,
      decide_eq_false_iff_not, and_true] <;>
    omega

/-- The longest start of a text that takes at most a number of bytes. -/
structure LongestStart (limit : Nat) (text start : List Char) : Prop where
  isStart : start <+: text
  fits : (encodeUtf8 start).length ≤ limit
  longest : ∀ other, other <+: text → (encodeUtf8 other).length ≤ limit → other <+: start

namespace LongestStart

variable {limit : Nat} {text start other : List Char}

theorem unique (longest : LongestStart limit text start)
    (longestOther : LongestStart limit text other) : start = other := by
  have within := longestOther.longest start longest.isStart longest.fits
  have back := longest.longest other longestOther.isStart longestOther.fits
  exact within.eq_of_length_le back.length_le

/-- A text that fits is its own longest start. -/
theorem whole (short : (encodeUtf8 text).length ≤ limit) : LongestStart limit text text where
  isStart := List.prefix_refl text
  fits := short
  longest _ within _ := within

theorem ofStart (isStart : start <+: text) :
    LongestStart (encodeUtf8 start).length text start where
  isStart := isStart
  fits := Nat.le_refl _
  longest _ within fewer := prefix_of_length_le isStart within fewer

/-- The character that does not fit any more takes at most four bytes. -/
theorem limit_le (longest : LongestStart limit text start)
    (long : limit < (encodeUtf8 text).length) : limit ≤ (encodeUtf8 start).length + 3 := by
  obtain ⟨rest, rfl⟩ := longest.isStart
  cases rest with
  | nil =>
      rw [List.append_nil] at long
      exact absurd longest.fits (Nat.not_le_of_lt long)
  | cons next rest =>
      by_contra apart
      have size := next.utf8Size_le_four
      have bytes : (encodeUtf8 (start ++ [next])).length =
          (encodeUtf8 start).length + next.utf8Size := by
        rw [encodeUtf8_append, List.length_append, length_encodeUtf8_cons]
        rfl
      have further : start ++ [next] <+: start ++ next :: rest :=
        (List.prefix_append_right_inj start).mpr (List.prefix_append [next] rest)
      have within := longest.longest _ further (by omega)
      have shorter := within.length_le
      rw [List.length_append, List.length_singleton] at shorter
      exact Nat.not_succ_le_self start.length shorter

end LongestStart

theorem longestStart_takeBytes (limit : Nat) (text : List Char) :
    LongestStart limit text (takeBytes limit text) := by
  induction text generalizing limit with
  | nil => exact .whole (Nat.zero_le limit)
  | cons character rest induction =>
      rw [takeBytes]
      split
      case isTrue fits =>
        obtain ⟨isStart, short, longest⟩ := induction (limit - character.utf8Size)
        refine ⟨(List.prefix_cons_inj character).mpr isStart, ?_, ?_⟩
        · rw [length_encodeUtf8_cons]
          omega
        · intro other within otherFits
          cases other with
          | nil => exact List.nil_prefix
          | cons first others =>
              obtain ⟨rfl, othersWithin⟩ := List.cons_prefix_cons.mp within
              rw [length_encodeUtf8_cons] at otherFits
              exact (List.prefix_cons_inj first).mpr (longest others othersWithin (by omega))
      case isFalse tooLong =>
        refine ⟨List.nil_prefix, Nat.zero_le limit, ?_⟩
        intro other within otherFits
        cases other with
        | nil => exact List.nil_prefix
        | cons first others =>
            obtain ⟨rfl, -⟩ := List.cons_prefix_cons.mp within
            rw [length_encodeUtf8_cons] at otherFits
            omega

theorem isCharBorder_zero (bytes : List UInt8) : isCharBorder bytes 0 = true :=
  rfl

/-- Where the bytes of a character go on there is no border. -/
theorem isCharBorder_inside {character : Char} {index : Nat} (started : 0 < index)
    (within : index < character.utf8Size) (rest : List Char) :
    isCharBorder (encodeUtf8 (character :: rest)) index = false := by
  obtain ⟨lead, others, bytes, -, goesOn⟩ := exists_leading character
  have size := String.length_utf8EncodeChar character
  rw [bytes, List.length_cons] at size
  obtain ⟨index, rfl⟩ := Nat.exists_eq_succ_of_ne_zero (Nat.ne_of_gt started)
  have inOthers : index < others.length := by omega
  have byte : (encodeUtf8 (character :: rest))[index.succ]? = some others[index] := by
    rw [encodeUtf8_cons, bytes, List.cons_append, Nat.succ_eq_add_one, List.getElem?_cons_succ,
      List.getElem?_append_left inOthers, List.getElem?_eq_getElem]
  have continued := goesOn _ (List.getElem_mem inOthers)
  simp [isCharBorder, byte, continued]

/-- Behind a character there are the borders of the rest. -/
theorem isCharBorder_behind (character : Char) (rest : List Char) (index : Nat) :
    isCharBorder (encodeUtf8 (character :: rest)) (character.utf8Size + index) =
      isCharBorder (encodeUtf8 rest) index := by
  have byte : (encodeUtf8 (character :: rest))[character.utf8Size + index]? =
      (encodeUtf8 rest)[index]? := by
    rw [encodeUtf8_cons, List.getElem?_append_right (by simp), String.length_utf8EncodeChar,
      Nat.add_sub_cancel_left]
  have size := character.utf8Size_pos
  have behind : (character.utf8Size + index == 0) = false := by simp; omega
  have same : (character.utf8Size + index == character.utf8Size + (encodeUtf8 rest).length) =
      (index == (encodeUtf8 rest).length) := by simp
  rw [isCharBorder, byte, length_encodeUtf8_cons, behind, same, Bool.false_or]
  cases index with
  | succ index => rfl
  | zero =>
      rw [isCharBorder_zero]
      cases rest with
      | nil => rfl
      | cons next rest =>
          obtain ⟨lead, others, bytes, starts, -⟩ := exists_leading next
          rw [encodeUtf8_cons, bytes, List.cons_append, List.getElem?_cons_zero]
          exact congrArg not starts

/-- The borders of a text are where its starts end. -/
theorem isCharBorder_iff {text : List Char} {index : Nat} :
    isCharBorder (encodeUtf8 text) index = true ↔
      ∃ start, start <+: text ∧ (encodeUtf8 start).length = index := by
  induction text generalizing index with
  | nil =>
      constructor
      · intro border
        cases index with
        | zero => exact ⟨[], List.prefix_refl [], rfl⟩
        | succ index => cases border
      · rintro ⟨start, isStart, rfl⟩
        rw [List.prefix_nil.mp isStart]
        exact isCharBorder_zero _
  | cons character rest induction =>
      constructor
      · intro border
        by_cases first : index = 0
        · exact ⟨[], List.nil_prefix, first.symm⟩
        by_cases inside : index < character.utf8Size
        · rw [isCharBorder_inside (Nat.pos_of_ne_zero first) inside] at border
          cases border
        obtain ⟨behind, rfl⟩ := Nat.exists_eq_add_of_le (Nat.le_of_not_lt inside)
        rw [isCharBorder_behind] at border
        obtain ⟨start, isStart, rfl⟩ := induction.mp border
        exact ⟨character :: start, (List.prefix_cons_inj character).mpr isStart,
          length_encodeUtf8_cons character start⟩
      · rintro ⟨start, isStart, rfl⟩
        cases start with
        | nil => exact isCharBorder_zero _
        | cons first others =>
            obtain ⟨rfl, othersStart⟩ := List.cons_prefix_cons.mp isStart
            rw [length_encodeUtf8_cons, isCharBorder_behind]
            exact induction.mpr ⟨others, othersStart, rfl⟩

/-- The search finds a border if there is none between it and the limit. -/
theorem lastCharBorder?_eq_some {limit index : Nat} {bytes : List UInt8}
    (within : index ≤ limit) (border : isCharBorder bytes index = true)
    (last : ∀ later, index < later → later ≤ limit → isCharBorder bytes later = false) :
    lastCharBorder? limit bytes = some index := by
  induction limit with
  | zero =>
      obtain rfl : index = 0 := Nat.le_zero.mp within
      rfl
  | succ limit induction =>
      rw [lastCharBorder?, List.range_succ, List.reverse_append, List.reverse_singleton,
        List.singleton_append, List.find?_cons]
      rcases Nat.eq_or_lt_of_le within with rfl | before
      · rw [border]
      · rw [last _ before (Nat.le_refl _)]
        exact induction (Nat.le_of_lt_succ before) fun later behind inside =>
          last later behind (Nat.le_succ_of_le inside)

/-- The search finds where the longest start ends that fits. -/
theorem lastCharBorder?_encodeUtf8 {limit : Nat} {text start : List Char}
    (longest : LongestStart limit text start) :
    lastCharBorder? limit (encodeUtf8 text) = some (encodeUtf8 start).length := by
  refine lastCharBorder?_eq_some longest.fits
    (isCharBorder_iff.mpr ⟨start, longest.isStart, rfl⟩) fun later behind within => ?_
  rw [← Bool.not_eq_true]
  intro border
  obtain ⟨other, isStart, rfl⟩ := isCharBorder_iff.mp border
  have shorter := (isPrefix_encodeUtf8 (longest.longest other isStart within)).length_le
  exact Nat.not_le_of_lt behind shorter

end FacetedQuery.Text
