import FacetedQuery.Proofs.Decimal.Nearest
import FacetedQuery.Proofs.Sparql.Border
import FacetedQuery.Proofs.Text.Lowercase

/-!
# Spellings of numbers

A number is spelt by a numeral, which is a sign, digits around a point and an exponent, each of them
optional but for one digit, or by a name of infinity or of no number behind a sign.  Just what is
spelt is read, and what is read is finite exactly if it is spelt by a numeral below the limit.
-/

namespace FacetedQuery.Decimal

open Sparql.Token (Stops dropWhile_append_eq_right takeWhile_append_eq_left)

/-- A text of digits. -/
def IsRow (text : List Char) : Prop :=
  ∀ character ∈ text, character.isDigit = true

/-- A minus sign makes a number negative, and a plus sign or no sign does not. -/
inductive SpellsSign : Bool → List Char → Prop
  | bare : SpellsSign false []
  | plus : SpellsSign false ['+']
  | minus : SpellsSign true ['-']

/-- An exponent of digits behind a mark and a sign, or zero. -/
inductive SpellsExponent : Int → List Char → Prop
  | bare : SpellsExponent 0 []
  | marked {mark : Char} {negative : Bool} {sign row : List Char} (isMark : mark = 'e' ∨ mark = 'E')
      (isSign : SpellsSign negative sign) (nonempty : row ≠ []) (isRow : IsRow row) :
      SpellsExponent (if negative then -(value row : Int) else value row) (mark :: (sign ++ row))

/-- A fraction of digits behind a point, or none. -/
inductive SpellsFraction : List Char → List Char → Prop
  | bare : SpellsFraction [] []
  | point {row : List Char} (isRow : IsRow row) : SpellsFraction row ('.' :: row)

/-- A numeral without its sign: digits of which some stand behind a point, and an exponent. -/
inductive SpellsMagnitude : Numeral → List Char → Prop
  | parts {negative : Bool} {whole fraction pointed behind : List Char} {exponent : Int}
      (isRow : IsRow whole) (isFraction : SpellsFraction fraction pointed)
      (nonempty : whole ≠ [] ∨ fraction ≠ []) (isExponent : SpellsExponent exponent behind) :
      SpellsMagnitude ⟨negative, whole, fraction, exponent⟩ (whole ++ (pointed ++ behind))

/-- A numeral behind its sign. -/
inductive SpellsNumeral : Numeral → List Char → Prop
  | signed {numeral : Numeral} {sign text : List Char} (isSign : SpellsSign numeral.negative sign)
      (isMagnitude : SpellsMagnitude numeral text) : SpellsNumeral numeral (sign ++ text)

/-- The names of infinity and of no number, in lowercase. -/
def specialNames : List (List Char) :=
  ["inf".toList, "infinity".toList, "nan".toList]

/-- A name behind a sign, in any case of letters. -/
inductive SpellsSpecial : List Char → Prop
  | signed {negative : Bool} {sign name : List Char} (isSign : SpellsSign negative sign)
      (isName : name.map Char.toLower ∈ specialNames) : SpellsSpecial (sign ++ name)

variable {text rest row : List Char} {negative : Bool}

/-- A text that begins with no sign. -/
def IsUnsigned (text : List Char) : Prop :=
  text.head? ≠ some '-' ∧ text.head? ≠ some '+'

theorem readSign_append {sign : List Char} (isSign : SpellsSign negative sign)
    (unsigned : IsUnsigned rest) : readSign (sign ++ rest) = (negative, rest) := by
  cases isSign with
  | plus => rfl
  | minus => rfl
  | bare =>
      rw [List.nil_append]
      fun_cases readSign rest with
      | case1 rest => exact absurd rfl unsigned.1
      | case2 rest => exact absurd rfl unsigned.2
      | case3 => rfl

theorem exists_spellsSign (text : List Char) :
    ∃ sign, SpellsSign (readSign text).1 sign ∧ text = sign ++ (readSign text).2 := by
  fun_cases readSign text with
  | case1 rest => exact ⟨_, .minus, rfl⟩
  | case2 rest => exact ⟨_, .plus, rfl⟩
  | case3 => exact ⟨_, .bare, rfl⟩

theorem IsRow.isUnsigned (isRow : IsRow row) : IsUnsigned row := by
  constructor <;>
  · intro begins
    exact absurd (isRow _ (List.mem_of_mem_head? begins)) (by decide)

theorem readNatural?_eq_some {number : Nat} :
    readNatural? row = some number ↔ row ≠ [] ∧ IsRow row ∧ value row = number := by
  simp [readNatural?, IsRow, and_assoc]

theorem readExponent?_eq_some {exponent : Int} :
    readExponent? text = some exponent ↔ SpellsExponent exponent text := by
  constructor
  · fun_cases readExponent? text with
    | case1 =>
        rintro ⟨⟩
        exact .bare
    | case2 mark rest isMark reading =>
        intro read
        obtain ⟨magnitude, isMagnitude, rfl⟩ := Option.map_eq_some_iff.mp read
        obtain ⟨number, isNumber, same⟩ := Option.bind_eq_some_iff.mp isMagnitude
        obtain ⟨nonempty, isRow, rfl⟩ := readNatural?_eq_some.mp isNumber
        obtain ⟨sign, isSign, split⟩ := exists_spellsSign rest
        obtain rfl := Option.some_inj.mp same
        rw [split]
        exact .marked (by simpa using isMark) isSign nonempty isRow
    | case3 => nofun
  · intro spells
    cases spells with
    | bare => rfl
    | @marked mark negative sign row isMark isSign nonempty isRow =>
        have isNumber := readNatural?_eq_some.mpr ⟨nonempty, isRow, rfl⟩
        have marks : (mark == 'e' || mark == 'E') = true := by simpa using isMark
        rw [readExponent?, if_pos marks]
        simp only [readSign_append isSign isRow.isUnsigned, isNumber]
        rfl

theorem SpellsExponent.stops {exponent : Int} (spells : SpellsExponent exponent text) :
    Stops Char.isDigit text := by
  intro character begins
  cases spells with
  | bare => cases begins
  | marked isMark =>
      obtain rfl := Option.some_inj.mp begins
      rcases isMark with rfl | rfl <;> decide

/-- The digits behind a point, if there is one, and what follows them. -/
def splitFraction : List Char → List Char × List Char
  | '.' :: rest => (rest.takeWhile Char.isDigit, rest.dropWhile Char.isDigit)
  | rest => ([], rest)

theorem readMagnitude?_eq (negative : Bool) (text : List Char) :
    readMagnitude? negative text =
      let whole := text.takeWhile Char.isDigit
      let fraction := splitFraction (text.dropWhile Char.isDigit)
      if whole.isEmpty && fraction.1.isEmpty then none
      else (readExponent? fraction.2).map fun exponent => ⟨negative, whole, fraction.1, exponent⟩ :=
  rfl

theorem isRow_takeWhile (text : List Char) : IsRow (text.takeWhile Char.isDigit) :=
  List.all_eq_true.mp List.all_takeWhile

theorem exists_spellsFraction (text : List Char) :
    ∃ pointed, SpellsFraction (splitFraction text).1 pointed ∧
      text = pointed ++ (splitFraction text).2 := by
  fun_cases splitFraction text with
  | case1 rest =>
      exact ⟨_, .point (isRow_takeWhile rest), by simp [List.takeWhile_append_dropWhile]⟩
  | case2 => exact ⟨_, .bare, rfl⟩

namespace SpellsFraction

variable {fraction pointed behind : List Char} {exponent : Int}

theorem stops (isFraction : SpellsFraction fraction pointed)
    (isExponent : SpellsExponent exponent behind) : Stops Char.isDigit (pointed ++ behind) := by
  cases isFraction with
  | bare => exact isExponent.stops
  | point isRow =>
      intro character begins
      obtain rfl := Option.some_inj.mp begins
      decide

theorem splitFraction_append (isFraction : SpellsFraction fraction pointed)
    (isExponent : SpellsExponent exponent behind) :
    splitFraction (pointed ++ behind) = (fraction, behind) := by
  cases isFraction with
  | bare =>
      cases isExponent with
      | bare => rfl
      | marked isMark => rcases isMark with rfl | rfl <;> rfl
  | point isRow =>
      rw [List.cons_append, splitFraction, takeWhile_append_eq_left isRow isExponent.stops,
        dropWhile_append_eq_right isRow isExponent.stops]

end SpellsFraction

/-- A magnitude is read exactly if it is spelt, and as the numeral it spells. -/
theorem readMagnitude?_eq_some {numeral : Numeral} : readMagnitude? negative text = some numeral ↔
    numeral.negative = negative ∧ SpellsMagnitude numeral text := by
  rw [readMagnitude?_eq]
  constructor
  · intro read
    dsimp only at read
    split at read
    · cases read
    · next nonempty =>
      obtain ⟨exponent, isExponent, rfl⟩ := Option.map_eq_some_iff.mp read
      obtain ⟨pointed, isFraction, split⟩ := exists_spellsFraction (text.dropWhile Char.isDigit)
      have present : text.takeWhile Char.isDigit ≠ [] ∨
          (splitFraction (text.dropWhile Char.isDigit)).1 ≠ [] := by
        rwa [Bool.and_eq_true, List.isEmpty_iff, List.isEmpty_iff, not_and_or] at nonempty
      have spells := @SpellsMagnitude.parts negative _ _ _ _ _ (isRow_takeWhile text) isFraction
        present (readExponent?_eq_some.mp isExponent)
      rw [← split, List.takeWhile_append_dropWhile] at spells
      exact ⟨rfl, spells⟩
  · rintro ⟨rfl, spells⟩
    cases spells with
    | @parts negative whole fraction pointed behind exponent isRow isFraction nonempty isExponent =>
      have stops := isFraction.stops isExponent
      have present : ¬(whole.isEmpty && fraction.isEmpty) = true := by
        rwa [Bool.and_eq_true, List.isEmpty_iff, List.isEmpty_iff, not_and_or]
      simp only [takeWhile_append_eq_left isRow stops, dropWhile_append_eq_right isRow stops,
        isFraction.splitFraction_append isExponent, if_neg present,
        readExponent?_eq_some.mpr isExponent, Option.map_some]

/-- A magnitude begins with a digit or a point. -/
theorem SpellsMagnitude.head {numeral : Numeral} (spells : SpellsMagnitude numeral text) :
    ∃ first rest, text = first :: rest ∧ (first.isDigit = true ∨ first = '.') := by
  cases spells with
  | @parts negative whole fraction pointed behind exponent isRow isFraction nonempty isExponent =>
      cases whole with
      | cons first whole => exact ⟨first, _, rfl, .inl (isRow first List.mem_cons_self)⟩
      | nil =>
          cases isFraction with
          | bare => exact absurd rfl (nonempty.resolve_left (not_not_intro rfl))
          | point => exact ⟨'.', _, rfl, .inr rfl⟩

theorem SpellsMagnitude.isUnsigned {numeral : Numeral} (spells : SpellsMagnitude numeral text) :
    IsUnsigned text := by
  obtain ⟨first, rest, rfl, isFirst⟩ := spells.head
  constructor <;>
  · intro begins
    obtain rfl := Option.some_inj.mp begins
    revert isFirst
    decide

theorem isUpper_of_isDigit {character : Char} (digit : character.isDigit = true) :
    character.isUpper = false := by
  have range : character.toNat ≤ 57 := by
    simp only [Char.isDigit, Bool.and_eq_true, decide_eq_true_eq, UInt32.le_iff_toNat_le] at digit
    exact digit.2
  have below : character.toNat < 65 := Nat.lt_of_le_of_lt range (by decide)
  exact decide_eq_false fun upper => Nat.not_le.mpr below (UInt32.le_iff_toNat_le.mp upper.1)

theorem head_specialName : ∀ name ∈ specialNames, ∀ first ∈ name.head?,
    first.isDigit = false ∧ first ≠ '.' ∧ first ≠ '-' ∧ first ≠ '+' := by
  intro name isName first begins
  simp only [specialNames, List.mem_cons, List.not_mem_nil, or_false] at isName
  rcases isName with rfl | rfl | rfl <;> cases begins <;> decide

/-- No name begins with a digit or a point. -/
theorem SpellsMagnitude.not_special {numeral : Numeral} (spells : SpellsMagnitude numeral text) :
    text.map Char.toLower ∉ specialNames := by
  obtain ⟨first, rest, rfl, isFirst⟩ := spells.head
  have small : first.isUpper = false := by
    rcases isFirst with digit | rfl
    · exact isUpper_of_isDigit digit
    · rfl
  rw [List.map_cons, Text.toLower_eq_self small]
  intro special
  have other := head_specialName _ special first rfl
  rcases isFirst with digit | point
  · cases digit.symm.trans other.1
  · exact other.2.1 point

theorem isUnsigned_of_special (special : text.map Char.toLower ∈ specialNames) :
    IsUnsigned text := by
  cases text with
  | nil => exact ⟨nofun, nofun⟩
  | cons first rest =>
      have other := head_specialName _ special first.toLower rfl
      constructor <;>
      · intro begins
        obtain rfl := Option.some_inj.mp begins
        revert other
        decide

variable {numeral : Numeral} {number : Float}

theorem readFloat?_of_not_special (other : (readSign text).2.map Char.toLower ∉ specialNames) :
    readFloat? text = (readMagnitude? (readSign text).1 (readSign text).2).map Numeral.toFloat := by
  simp only [specialNames, List.mem_cons, List.not_mem_nil, or_false, not_or] at other
  simp only [readFloat?, beq_false_of_ne other.1, beq_false_of_ne other.2.1,
    beq_false_of_ne other.2.2, Bool.or_false, Bool.false_eq_true, if_false]

theorem readFloat?_of_numeral (spells : SpellsNumeral numeral text) :
    readFloat? text = some numeral.toFloat := by
  cases spells with
  | @signed sign text isSign isMagnitude =>
      have isSplit := readSign_append isSign isMagnitude.isUnsigned
      have isRead := readMagnitude?_eq_some.mpr ⟨rfl, isMagnitude⟩
      rw [readFloat?_of_not_special (by rw [isSplit]; exact isMagnitude.not_special), isSplit,
        isRead, Option.map_some]

theorem readFloat?_of_special (spells : SpellsSpecial text) :
    ∃ number, readFloat? text = some number ∧ number.isFinite = false := by
  cases spells with
  | @signed negative sign name isSign isName =>
      have infinite : ∀ negative : Bool,
          (if negative then -infinity else infinity).isFinite = false := by
        decide +kernel
      rw [readFloat?, readSign_append isSign (isUnsigned_of_special isName)]
      simp only [specialNames, List.mem_cons, List.not_mem_nil, or_false] at isName
      rcases isName with named | named | named
      · exact ⟨_, by rw [named]; rfl, infinite negative⟩
      · exact ⟨_, by rw [named]; rfl, infinite negative⟩
      · exact ⟨_, by rw [named]; rfl, by decide +kernel⟩

/-- What is read is the number of a numeral that is spelt, or a name is spelt. -/
theorem spelling_of_readFloat? (read : readFloat? text = some number) :
    (∃ numeral, SpellsNumeral numeral text ∧ number = numeral.toFloat) ∨ SpellsSpecial text := by
  obtain ⟨sign, isSign, split⟩ := exists_spellsSign text
  by_cases isName : (readSign text).2.map Char.toLower ∈ specialNames
  · rw [split]
    exact .inr (.signed isSign isName)
  · rw [readFloat?_of_not_special isName] at read
    obtain ⟨numeral, isRead, rfl⟩ := Option.map_eq_some_iff.mp read
    obtain ⟨isNegative, isMagnitude⟩ := readMagnitude?_eq_some.mp isRead
    rw [split]
    exact .inl ⟨numeral, .signed (isNegative ▸ isSign) isMagnitude, rfl⟩

theorem isSome_readFloat?_iff : (readFloat? text).isSome = true ↔
    (∃ numeral, SpellsNumeral numeral text) ∨ SpellsSpecial text := by
  rw [Option.isSome_iff_exists]
  constructor
  · rintro ⟨number, read⟩
    exact (spelling_of_readFloat? read).imp_left fun ⟨numeral, spells, _⟩ => ⟨numeral, spells⟩
  · rintro (⟨numeral, spells⟩ | spells)
    · exact ⟨_, readFloat?_of_numeral spells⟩
    · exact (readFloat?_of_special spells).imp fun _ => And.left

/-- What is read is finite exactly if it is spelt by a numeral below the limit. -/
theorem isFinite_iff_of_readFloat? (read : readFloat? text = some number) :
    number.isFinite = true ↔ ∃ numeral, SpellsNumeral numeral text ∧ numeral.InRange := by
  constructor
  · intro finite
    rcases spelling_of_readFloat? read with ⟨numeral, spells, rfl⟩ | special
    · exact ⟨numeral, spells, (isFinite_toFloat numeral).mp finite⟩
    · obtain ⟨other, isOther, infinite⟩ := readFloat?_of_special special
      obtain rfl := Option.some_inj.mp (read.symm.trans isOther)
      cases finite.symm.trans infinite
  · rintro ⟨numeral, spells, inRange⟩
    obtain rfl := Option.some_inj.mp (read.symm.trans (readFloat?_of_numeral spells))
    exact (isFinite_toFloat numeral).mpr inRange

example : ["1.7976931348623158e308", "1.7976931348623159e308", "Infinity", "."].map
    (fun text => (readFloat? text.toList).map Float.isFinite) =
      [some true, some false, some false, none] := by
  decide +kernel

end FacetedQuery.Decimal
