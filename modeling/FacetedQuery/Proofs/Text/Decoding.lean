import FacetedQuery.Proofs.Text.Borders

/-!
# Texts that are read back

The bytes of a text are decoded to the text.  Behind a byte order mark they are read as UTF-8
whatever they hold, so that every text is what some bytes are read as.
-/

namespace FacetedQuery.Text

theorem leadByte?_two {value : Nat} (long : 0x80 ≤ value) (short : value < 0x800) :
    leadByte? (value / 64 + 192) = some ⟨value / 64, 1, 0x80, 0xBF⟩ := by
  have inRange : (0xC2 ≤ value / 64 + 192 && value / 64 + 192 ≤ 0xDF) = true := by simp; omega
  rw [leadByte?, if_pos inRange, Nat.add_sub_cancel]

/-- The first byte of a character of three bytes, whose second byte is within its bounds because the
character is no surrogate. -/
theorem exists_leadByte_three {value : Nat} (long : 0x800 ≤ value) (short : value < 0x10000)
    (noSurrogate : value < 0xD800 ∨ 0xDFFF < value) :
    ∃ low high, leadByte? (value / 4096 + 224) = some ⟨value / 4096, 2, low, high⟩ ∧
      low ≤ value / 64 % 64 + 128 ∧ value / 64 % 64 + 128 ≤ high := by
  by_cases least : value / 4096 = 0
  · exact ⟨0xA0, 0xBF, by rw [least]; rfl, by omega, by omega⟩
  by_cases surrogates : value / 4096 = 0xD
  · exact ⟨0x80, 0x9F, by rw [surrogates]; rfl, by omega, by omega⟩
  have noTwo : ¬(0xC2 ≤ value / 4096 + 224 && value / 4096 + 224 ≤ 0xDF) = true := by simp
  have noLeast : ¬(value / 4096 + 224 == 0xE0) = true := by simp; omega
  have noSurrogates : ¬(value / 4096 + 224 == 0xED) = true := by simp; omega
  have inRange : (0xE1 ≤ value / 4096 + 224 && value / 4096 + 224 ≤ 0xEF) = true := by simp; omega
  refine ⟨0x80, 0xBF, ?_, by omega, by omega⟩
  rw [leadByte?, if_neg noTwo, if_neg noLeast, if_neg noSurrogates, if_pos inRange,
    Nat.add_sub_cancel]

/-- The first byte of a character of four bytes, whose second byte is within its bounds because
there is a last character. -/
theorem exists_leadByte_four {value : Nat} (long : 0x10000 ≤ value) (short : value < 0x110000) :
    ∃ low high, leadByte? (value / 262144 + 240) = some ⟨value / 262144, 3, low, high⟩ ∧
      low ≤ value / 4096 % 64 + 128 ∧ value / 4096 % 64 + 128 ≤ high := by
  have small : value / 262144 < 5 := by omega
  by_cases least : value / 262144 = 0
  · exact ⟨0x90, 0xBF, by rw [least]; rfl, by omega, by omega⟩
  by_cases greatest : value / 262144 = 4
  · exact ⟨0x80, 0x8F, by rw [greatest]; rfl, by omega, by omega⟩
  refine ⟨0x80, 0xBF, ?_, by omega, by omega⟩
  obtain one | two | three : value / 262144 = 1 ∨ value / 262144 = 2 ∨ value / 262144 = 3 := by
    omega
  · rw [one]
    rfl
  · rw [two]
    rfl
  · rw [three]
    rfl

theorem toNat_ofNat_of_lt {value : Nat} (small : value < 256) :
    (UInt8.ofNat value).toNat = value := by
  rw [UInt8.toNat_ofNat', Nat.mod_eq_of_lt small]

theorem readContinuation_digit {value count low high digit : Nat} (rest : List UInt8)
    (small : digit < 64) (atLeast : low ≤ digit + 128) (atMost : digit + 128 ≤ high) :
    readContinuation value (count + 1) low high (UInt8.ofNat (digit + 128) :: rest) =
      readContinuation (value * 64 + digit) count 0x80 0xBF rest := by
  have byte : (UInt8.ofNat (digit + 128)).toNat = digit + 128 := toNat_ofNat_of_lt (by omega)
  rw [readContinuation, byte, if_pos (by simp [atLeast, atMost]), Nat.add_sub_cancel]

theorem decodeUtf8_of_leadByte {byte : UInt8} {lead : LeadByte} {value : Nat}
    {bytes rest : List UInt8} (announced : leadByte? byte.toNat = some lead)
    (read : readContinuation lead.payload lead.following lead.low lead.high bytes =
      (some value, rest)) :
    decodeUtf8 (byte :: bytes) = some (Char.ofNat value) :: decodeUtf8 rest := by
  have high : ¬byte.toNat < 0x80 := by
    intro low
    have noLead : leadByte? byte.toNat = none := by
      unfold leadByte?
      repeat rw [if_neg (by simp; omega)]
    cases noLead.symm.trans announced
  rw [decodeUtf8, if_neg high, announced]
  simp only [read, Option.map_some]

/-- What a character is encoded as is decoded to it, whatever follows. -/
theorem decodeUtf8_utf8EncodeChar (character : Char) (rest : List UInt8) :
    decodeUtf8 (String.utf8EncodeChar character ++ rest) = some character :: decodeUtf8 rest := by
  have valid := character.valid
  simp only [UInt32.isValidChar, Nat.isValidChar] at valid
  have same : Char.ofNat character.val.toNat = character := Char.ofNat_toNat character
  -- Each case writes the number of the character to the base of 64; the digits behind the payload
  -- of the leading byte add up to it again.
  fun_cases String.utf8EncodeChar character with
  | case1 value one =>
      have byte : (UInt8.ofNat value).toNat = value := toNat_ofNat_of_lt (by omega)
      rw [List.singleton_append, decodeUtf8, byte, if_pos (by omega), same]
  | case2 value noOne two =>
      have lead : leadByte? (UInt8.ofNat (value / 64 % 32 + 192)).toNat =
          some ⟨value / 64, 1, 0x80, 0xBF⟩ := by
        rw [toNat_ofNat_of_lt (by omega), Nat.mod_eq_of_lt (by omega)]
        exact leadByte?_two (by omega) (by omega)
      have digits : value / 64 * 64 + value % 64 = value := by omega
      have read : readContinuation (value / 64) 1 0x80 0xBF
        (UInt8.ofNat (value % 64 + 128) :: rest) = (some value, rest) := by
        rw [readContinuation_digit rest (by omega) (by omega) (by omega), digits, readContinuation]
      rw [← same]
      exact decodeUtf8_of_leadByte lead read
  | case3 value noOne noTwo three =>
      obtain ⟨low, high, announced, atLeast, atMost⟩ :=
        @exists_leadByte_three value (by omega) (by omega) (by omega)
      have lead : leadByte? (UInt8.ofNat (value / 4096 % 16 + 224)).toNat =
          some ⟨value / 4096, 2, low, high⟩ := by
        rw [toNat_ofNat_of_lt (by omega), Nat.mod_eq_of_lt (by omega)]
        exact announced
      have digits : (value / 4096 * 64 + value / 64 % 64) * 64 + value % 64 = value := by omega
      have read : readContinuation (value / 4096) 2 low high
          (UInt8.ofNat (value / 64 % 64 + 128) :: UInt8.ofNat (value % 64 + 128) :: rest) =
            (some value, rest) := by
        rw [readContinuation_digit _ (by omega) atLeast atMost,
          readContinuation_digit rest (by omega) (by omega) (by omega), digits, readContinuation]
      rw [← same]
      exact decodeUtf8_of_leadByte lead read
  | case4 value noOne noTwo noThree =>
      obtain ⟨low, high, announced, atLeast, atMost⟩ :=
        @exists_leadByte_four value (by omega) (by omega)
      have lead : leadByte? (UInt8.ofNat (value / 262144 % 8 + 240)).toNat =
          some ⟨value / 262144, 3, low, high⟩ := by
        rw [toNat_ofNat_of_lt (by omega), Nat.mod_eq_of_lt (by omega)]
        exact announced
      have digits : ((value / 262144 * 64 + value / 4096 % 64) * 64 + value / 64 % 64) * 64 +
          value % 64 = value := by omega
      have read : readContinuation (value / 262144) 3 low high
          (UInt8.ofNat (value / 4096 % 64 + 128) :: UInt8.ofNat (value / 64 % 64 + 128) ::
            UInt8.ofNat (value % 64 + 128) :: rest) = (some value, rest) := by
        rw [readContinuation_digit _ (by omega) atLeast atMost,
          readContinuation_digit _ (by omega) (by omega) (by omega),
          readContinuation_digit rest (by omega) (by omega) (by omega), digits, readContinuation]
      rw [← same]
      exact decodeUtf8_of_leadByte lead read

theorem decodeUtf8_encodeUtf8 (text : List Char) : decodeUtf8 (encodeUtf8 text) =
    text.map some := by
  induction text with
  | nil => rw [encodeUtf8, List.flatMap_nil, decodeUtf8, List.map_nil]
  | cons character rest induction =>
      rw [encodeUtf8_cons, decodeUtf8_utf8EncodeChar, induction, List.map_cons]

/-- Every text is what some bytes are read as. -/
theorem decodeLossy_encodeUtf8 (text : List Char) :
    decodeLossy (byteOrderMark ++ encodeUtf8 text) = text := by
  change (decodeUtf8 (dropByteOrderMark (byteOrderMark ++ encodeUtf8 text))).map _ = text
  have isMarked : byteOrderMark.isPrefixOf (byteOrderMark ++ encodeUtf8 text) = true :=
    List.isPrefixOf_iff_prefix.mpr (List.prefix_append _ _)
  rw [dropByteOrderMark, if_pos isMarked, List.drop_left, decodeUtf8_encodeUtf8, List.map_map]
  exact List.map_id text

end FacetedQuery.Text
