import FacetedQuery.Text.Utf8

/-!
# The order of texts

Texts are ordered by the code points of their characters, which is the order of their bytes in
UTF-8.
-/

namespace FacetedQuery.Text

/-- A later character has greater bytes, whatever follows them. -/
theorem utf8EncodeChar_lt {first second : Char} (less : first < second) (rest other : List UInt8) :
    String.utf8EncodeChar first ++ rest < String.utf8EncodeChar second ++ other := by
  have below : first.val.toNat < second.val.toNat := UInt32.lt_iff_toNat_lt.mp less
  have bound : second.val.toNat < 0x110000 := by
    have valid := second.valid
    simp only [UInt32.isValidChar, Nat.isValidChar] at valid
    omega
  have lowDigits := Nat.div_div_eq_div_mul first.val.toNat 64 64
  have lowHead := Nat.div_div_eq_div_mul first.val.toNat 4096 64
  have highDigits := Nat.div_div_eq_div_mul second.val.toNat 64 64
  have highHead := Nat.div_div_eq_div_mul second.val.toNat 4096 64
  fun_cases String.utf8EncodeChar first <;> fun_cases String.utf8EncodeChar second <;>
    simp only [List.cons_append, List.nil_append, List.cons_lt_cons_iff, UInt8.lt_iff_toNat_lt,
      ← UInt8.toNat_inj, UInt8.toNat_ofNat'] <;>
    simp (disch := omega) only [Nat.mod_eq_of_lt] <;>
    omega

/-- Texts are ordered like their bytes. -/
theorem encodeUtf8_lt {first second : List Char} (less : first < second) :
    encodeUtf8 first < encodeUtf8 second := by
  induction less with
  | @nil character rest =>
      obtain ⟨byte, bytes, isRow⟩ := List.exists_cons_of_ne_nil
        (@String.utf8EncodeChar_ne_nil character)
      rw [encodeUtf8, encodeUtf8, List.flatMap_cons, isRow]
      exact .nil
  | rel less => exact utf8EncodeChar_lt less _ _
  | cons less induction => exact List.append_left_lt induction

theorem encodeUtf8_lt_iff {first second : String} :
    encodeUtf8 first.toList < encodeUtf8 second.toList ↔ first < second := by
  constructor
  · intro less
    apply String.not_le.mp
    intro reversed
    by_cases same : second = first
    · exact List.lt_irrefl _ (same ▸ less)
    · have greater : second < first := Std.lt_of_le_of_ne reversed same
      exact List.lt_asymm less (encodeUtf8_lt (String.lt_iff.mp greater))
  · intro less
    exact encodeUtf8_lt (String.lt_iff.mp less)

end FacetedQuery.Text
