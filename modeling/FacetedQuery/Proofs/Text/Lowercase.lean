import FacetedQuery.Text.Lowercase

/-!
# Lowercase texts

Lowercasing a text a second time changes nothing, because no image of a character has an image of
its own, and a lowercase text holds no capital letter of ASCII.
-/

namespace FacetedQuery.Text

/-- Whether no image of one row lies among the characters of another. -/
def imageAvoids (run other : Nat × Nat × Nat × Nat) : Bool :=
  Nat.blt (run.2.2.2 + (run.2.1 - run.1)) other.1 || Nat.blt other.2.1 run.2.2.2 ||
    ((Nat.beq (run.2.2.1 % 2) 0 || Nat.beq run.1 run.2.1) && Nat.beq (other.2.2.1 % 2) 0 &&
      Nat.beq ((run.2.2.2 + other.1) % 2) 1)

/-- Whether the images of a row are neither characters of the table nor a capital sigma. -/
def runSettles (run : Nat × Nat × Nat × Nat) : Bool :=
  Nat.ble 0x5B run.2.2.2 && lowercaseRuns.all (imageAvoids run) &&
    imageAvoids run (0x3A3, 0x3A3, 2, 0) && imageAvoids run (0x130, 0x130, 2, 0)

theorem all_runSettles : lowercaseRuns.all runSettles = true := by
  decide +kernel

theorem runImage?_eq_none {run other : Nat × Nat × Nat × Nat} {code image : Nat}
    (avoids : imageAvoids run other = true) (found : runImage? code run = some image) :
    runImage? image other = none := by
  unfold runImage? at found ⊢
  split at found
  · next inRun =>
    obtain rfl := Option.some.inj found
    refine if_neg fun inOther => ?_
    simp only [Bool.and_eq_true, decide_eq_true_eq, beq_iff_eq] at inRun inOther
    simp only [imageAvoids, Bool.or_eq_true, Bool.and_eq_true, Nat.blt_eq, Nat.beq_eq] at avoids
    have evenOf : ∀ {step difference : Nat}, step % 2 = 0 → difference % step = 0 →
        difference % 2 = 0 := by
      intro step difference even multiple
      exact Nat.mod_eq_zero_of_dvd
        (Nat.dvd_trans (Nat.dvd_of_mod_eq_zero even) (Nat.dvd_of_mod_eq_zero multiple))
    rcases avoids with (below | above) | ⟨⟨single, even⟩, odd⟩
    · omega
    · omega
    · have second := evenOf even inOther.2
      rcases single with evenStep | alone
      · have first := evenOf evenStep inRun.2
        omega
      · omega
  · cases found

/-- A character that lowercasing leaves alone wherever it stands. -/
structure Settled (character : Char) : Prop where
  same : lowercaseChar character = character
  noSigma : character ≠ 'Σ'
  noDot : character ≠ 'İ'
  noCapital : character.isUpper = false

theorem toLower_eq_self {character : Char} (small : character.isUpper = false) :
    character.toLower = character := by
  unfold Char.toLower
  split
  · next capital => exact absurd capital (of_decide_eq_false small)
  · rfl

theorem settled_ascii {character : Char} (low : character.toNat < 0x80)
    (small : character.isUpper = false) : Settled character := by
  refine ⟨?_, ?_, ?_, small⟩
  · rw [lowercaseChar, if_pos low, toLower_eq_self small]
  · rintro rfl
    exact absurd low (by decide)
  · rintro rfl
    exact absurd low (by decide)

theorem isUpper_toLower {character : Char} (low : character.toNat < 0x80) :
    character.toLower.toNat < 0x80 ∧ character.toLower.isUpper = false := by
  have all : ∀ code < 0x80, (Char.ofNat code).toLower.toNat < 0x80 ∧
      (Char.ofNat code).toLower.isUpper = false := by
    decide +kernel
  simpa using all character.toNat low

theorem isUpper_of_high {character : Char} (high : 0x5B ≤ character.toNat) :
    character.isUpper = false := by
  refine Bool.eq_false_iff.mpr fun upper => ?_
  have below : character.toNat ≤ 'Z'.toNat := (of_decide_eq_true upper).2
  have last : 'Z'.toNat = 0x5A := rfl
  omega

/-- No image of the table has an image of its own. -/
theorem settled_image {code image : Nat} {run : Nat × Nat × Nat × Nat}
    (member : run ∈ lowercaseRuns) (found : runImage? code run = some image) :
    Settled (Char.ofNat image) := by
  by_cases valid : image.isValidChar
  · have number : (Char.ofNat image).toNat = image := by
      rw [Char.ofNat, dif_pos valid]
      rfl
    have settles := List.all_eq_true.mp all_runSettles run member
    simp only [runSettles, Bool.and_eq_true, Nat.ble_eq] at settles
    obtain ⟨⟨⟨high, avoids⟩, noSigma⟩, noDot⟩ := settles
    have least : run.2.2.2 ≤ image := by
      unfold runImage? at found
      split at found
      · have value := Option.some.inj found
        omega
      · cases found
    have small : (Char.ofNat image).isUpper = false := isUpper_of_high (by omega)
    refine ⟨?_, ?_, ?_, small⟩
    · have nowhere : lowercaseRuns.findSome? (runImage? image) = none :=
        List.findSome?_eq_none_iff.mpr fun other inTable =>
          runImage?_eq_none (List.all_eq_true.mp avoids other inTable) found
      rw [lowercaseChar, number, nowhere, toLower_eq_self small]
      exact ite_self _
    · intro equality
      have noImage := runImage?_eq_none noSigma found
      have atSigma : image = 0x3A3 := by rw [← number, equality]; rfl
      subst atSigma
      cases noImage
    · intro equality
      have noImage := runImage?_eq_none noDot found
      have atDot : image = 0x130 := by rw [← number, equality]; rfl
      subst atDot
      cases noImage
  · have zero : Char.ofNat image = '\x00' := by
      rw [Char.ofNat, dif_neg valid]
      rfl
    rw [zero]
    exact settled_ascii (by decide) (by decide)

theorem settled_lowercaseChar {character : Char} (noSigma : character ≠ 'Σ')
    (noDot : character ≠ 'İ') : Settled (lowercaseChar character) := by
  unfold lowercaseChar
  split
  · next low =>
    obtain ⟨lowImage, small⟩ := isUpper_toLower low
    exact settled_ascii lowImage small
  · next high =>
    split
    · next image found =>
      obtain ⟨run, member, inRun⟩ := List.exists_of_findSome?_eq_some found
      exact settled_image member inRun
    · next nowhere =>
      refine ⟨?_, noSigma, noDot, isUpper_of_high (by omega)⟩
      rw [lowercaseChar, if_neg high, nowhere]

theorem settled_of_mem_lowercaseFrom {preceded : Bool} {text : List Char} {character : Char}
    (member : character ∈ lowercaseFrom preceded text) : Settled character := by
  have settledFinal : Settled 'ς' :=
    ⟨by decide +kernel, by decide, by decide, by decide⟩
  have settledSigma : Settled 'σ' :=
    ⟨by decide +kernel, by decide, by decide, by decide⟩
  have settledDot : Settled '\u0307' :=
    ⟨by decide +kernel, by decide, by decide, by decide⟩
  induction text generalizing preceded with
  | nil => cases member
  | cons first text induction =>
      unfold lowercaseFrom at member
      by_cases sigma : first = 'Σ'
      · simp only [sigma, beq_self_eq_true, if_true] at member
        rcases List.mem_cons.mp member with rfl | member
        · split
          · exact settledFinal
          · exact settledSigma
        · exact induction member
      · by_cases dot : first = 'İ'
        · simp only [dot] at member
          rcases List.mem_cons.mp member with rfl | member
          · exact settled_ascii (by decide) (by decide)
          · rcases List.mem_cons.mp member with rfl | member
            · exact settledDot
            · exact induction member
        · simp only [beq_eq_false_iff_ne.mpr sigma, beq_eq_false_iff_ne.mpr dot] at member
          rcases List.mem_cons.mp member with rfl | member
          · exact settled_lowercaseChar sigma dot
          · exact induction member

theorem lowercaseFrom_of_settled {text : List Char}
    (settled : ∀ character ∈ text, Settled character) (preceded : Bool) :
    lowercaseFrom preceded text = text := by
  induction text generalizing preceded with
  | nil => rfl
  | cons first text induction =>
      have ⟨same, noSigma, noDot, _⟩ := settled first (by simp)
      unfold lowercaseFrom
      simp only [beq_eq_false_iff_ne.mpr noSigma, beq_eq_false_iff_ne.mpr noDot, same]
      rw [induction fun other member => settled other (by simp [member])]
      rfl

theorem settled_of_mem_lowercase {text : String} {character : Char}
    (member : character ∈ (lowercase text).toList) : Settled character := by
  unfold lowercase at member
  rw [String.toList_ofList] at member
  exact settled_of_mem_lowercaseFrom member

/-- Lowercasing a second time changes nothing. -/
theorem lowercase_lowercase (text : String) : lowercase (lowercase text) = lowercase text := by
  have settled : ∀ character ∈ (lowercase text).toList, Settled character :=
    fun _ member => settled_of_mem_lowercase member
  rw [lowercase, lowercaseFrom_of_settled settled, String.ofList_toList]

end FacetedQuery.Text
