import FacetedQuery.Proofs.Text.Lowercase
import Mathlib.Data.List.Forall2
import Mathlib.Data.List.Infix

/-!
# Lowercasing a part of a text

A capital sigma has two small forms, and which one it takes depends on the characters around it.
A text is steady if its lowercase is the same wherever it stands.  These are exactly the texts whose
lowercase occurs in the lowercase of every text that they occur in.
-/

namespace FacetedQuery.Text

/-- Whether a cased character stands before what follows a character, case-ignorable ones aside. -/
def casedAfter (preceded : Bool) (character : Char) : Bool :=
  if isCaseIgnorable character then preceded else isCased character

/-- `casedFirst` of a text that something follows. -/
def casedAhead (followed : Bool) (text : List Char) : Bool :=
  match text.dropWhile isCaseIgnorable with
  | [] => followed
  | character :: _ => isCased character

/-- The lowercase of a character between two others. -/
def imageBetween (preceded followed : Bool) (character : Char) : List Char :=
  if character == 'Σ' then [if preceded && !followed then 'ς' else 'σ']
  else if character == 'İ' then ['i', '\u0307']
  else [lowercaseChar character]

/-- The lowercase of a text that stands within another one. -/
def lowercaseWithin (followed : Bool) : Bool → List Char → List Char
  | _, [] => []
  | preceded, character :: rest =>
    imageBetween preceded (casedAhead followed rest) character ++
      lowercaseWithin followed (casedAfter preceded character) rest

theorem casedFirst_append (text rest : List Char) :
    casedFirst (text ++ rest) = casedAhead (casedFirst rest) text := by
  induction text with
  | nil => rfl
  | cons first text induction =>
      by_cases ignorable : isCaseIgnorable first
      · simpa only [casedFirst, casedAhead, List.cons_append, List.dropWhile_cons_of_pos ignorable]
          using induction
      · simp only [casedFirst, casedAhead, List.cons_append,
          List.dropWhile_cons_of_neg ignorable]

theorem lowercaseFrom_cons (preceded : Bool) (character : Char) (rest : List Char) :
    lowercaseFrom preceded (character :: rest) =
      imageBetween preceded (casedFirst rest) character ++
        lowercaseFrom (casedAfter preceded character) rest := by
  rw [lowercaseFrom, imageBetween, casedAfter]
  split
  · rfl
  · split <;> rfl

theorem lowercaseFrom_append (preceded : Bool) (text rest : List Char) :
    lowercaseFrom preceded (text ++ rest) =
      lowercaseWithin (casedFirst rest) preceded text ++
        lowercaseFrom (text.foldl casedAfter preceded) rest := by
  induction text generalizing preceded with
  | nil => rfl
  | cons first text induction =>
      rw [List.cons_append, lowercaseFrom_cons, induction, casedFirst_append, lowercaseWithin,
        List.append_assoc, List.foldl_cons]

theorem lowercaseWithin_alone (text : List Char) :
    lowercaseWithin false false text = lowercaseFrom false text := by
  have alone := lowercaseFrom_append false text []
  rw [List.append_nil] at alone
  rw [alone]
  exact (List.append_nil _).symm

/-- A text whose lowercase does not depend on what stands around it. -/
def Steady (text : List Char) : Prop :=
  ∀ followed preceded, lowercaseWithin followed preceded text = lowercaseFrom false text

instance (text : List Char) : Decidable (Steady text) :=
  inferInstanceAs (Decidable (∀ followed preceded : Bool,
    lowercaseWithin followed preceded text = lowercaseFrom false text))

theorem steady_of_not_mem {text : List Char} (noSigma : 'Σ' ∉ text) : Steady text := by
  have same : ∀ followed preceded other,
      lowercaseWithin followed preceded text = lowercaseFrom other text := by
    intro followed preceded other
    induction text generalizing preceded other with
    | nil => rfl
    | cons first text induction =>
        have noHead : first ≠ 'Σ' := fun sigma => noSigma (sigma ▸ List.mem_cons_self)
        have noTail : 'Σ' ∉ text := fun member => noSigma (List.mem_cons_of_mem _ member)
        have image : imageBetween preceded (casedAhead followed text) first =
            imageBetween other (casedFirst text) first := by
          simp only [imageBetween, beq_eq_false_iff_ne.mpr noHead, Bool.false_eq_true, if_false]
        rw [lowercaseWithin, lowercaseFrom_cons, image, induction noTail]
  exact fun followed preceded => same followed preceded false

theorem Steady.isInfix {text whole : List Char} (steady : Steady text) (part : text <:+: whole) :
    lowercaseFrom false text <:+: lowercaseFrom false whole := by
  obtain ⟨front, back, rfl⟩ := part
  rw [List.append_assoc, lowercaseFrom_append, lowercaseFrom_append, steady]
  exact List.infix_append' _ _ _

/-- The same character, or a sigma that takes its final form. -/
def Sharpens (first second : Char) : Prop :=
  first = second ∨ (first = 'σ' ∧ second = 'ς')

theorem sharpens_refl (text : List Char) : List.Forall₂ Sharpens text text :=
  List.forall₂_same.mpr fun _ _ => Or.inl rfl

theorem sharpens_imageBetween {preceded followed preceded' followed' : Bool}
    (before : preceded = true → preceded' = true) (behind : followed' = true → followed = true)
    (character : Char) :
    List.Forall₂ Sharpens (imageBetween preceded followed character)
      (imageBetween preceded' followed' character) := by
  by_cases sigma : character = 'Σ'
  · refine sigma ▸ .cons ?_ .nil
    revert before behind
    cases preceded <;> cases followed <;> cases preceded' <;> cases followed' <;>
      simp [Sharpens]
  · have same : imageBetween preceded followed character =
        imageBetween preceded' followed' character := by
      simp only [imageBetween, beq_eq_false_iff_ne.mpr sigma, Bool.false_eq_true, if_false]
    rw [same]
    exact sharpens_refl _

/-- More before a text and less behind it can only sharpen sigmas. -/
theorem sharpens_lowercaseWithin {preceded followed preceded' followed' : Bool}
    (before : preceded = true → preceded' = true) (behind : followed' = true → followed = true)
    (text : List Char) :
    List.Forall₂ Sharpens (lowercaseWithin followed preceded text)
      (lowercaseWithin followed' preceded' text) := by
  induction text generalizing preceded preceded' with
  | nil => exact .nil
  | cons first text induction =>
      have ahead : casedAhead followed' text = true → casedAhead followed text = true := by
        unfold casedAhead
        split
        · exact behind
        · exact id
      have after : casedAfter preceded first = true → casedAfter preceded' first = true := by
        unfold casedAfter
        split
        · exact before
        · exact id
      exact List.rel_append (sharpens_imageBetween before ahead first) (induction after)

theorem count_of_sharpens {first second : List Char}
    (sharpens : List.Forall₂ Sharpens first second) :
    first.count 'ς' ≤ second.count 'ς' ∧
      first.count 'σ' + first.count 'ς' = second.count 'σ' + second.count 'ς' := by
  induction sharpens with
  | nil => exact ⟨le_rfl, rfl⟩
  | cons head _ induction =>
      rcases head with rfl | ⟨rfl, rfl⟩
      · simp only [List.count_cons]
        omega
      · simp only [List.count_cons]
        have apart : ('σ' == 'ς') = false := by decide
        have apart' : ('ς' == 'σ') = false := by decide
        simp only [apart, apart', beq_self_eq_true, if_true, Bool.false_eq_true, if_false]
        omega

theorem eq_of_sharpens {first second : List Char} (sharpens : List.Forall₂ Sharpens first second)
    (few : second.count 'ς' ≤ first.count 'ς') : first = second := by
  induction sharpens with
  | nil => rfl
  | cons head tail induction =>
      rcases head with rfl | ⟨rfl, rfl⟩
      · rw [induction (by simpa [List.count_cons] using few)]
      · have fewer := (count_of_sharpens tail).1
        rw [List.count_cons_self, List.count_cons_of_ne (by decide)] at few
        omega

/-- A cased character, or none. -/
def casedEdge (cased : Bool) : List Char :=
  if cased then ['Α'] else []

theorem count_within_of_isInfix {text part : List Char} {preceded followed : Bool} {sigma : Char}
    (small : sigma ≠ 'α')
    (found : part <:+: lowercaseFrom false (casedEdge preceded ++ (text ++ casedEdge followed))) :
    part.count sigma ≤ (lowercaseWithin followed preceded text).count sigma := by
  have edge : ∀ other cased, (lowercaseFrom other (casedEdge cased)).count sigma = 0 := by
    intro other cased
    have image : lowercaseFrom other ['Α'] = ['α'] := by
      cases other <;> decide +kernel
    cases cased
    · rfl
    · exact image ▸ List.count_eq_zero.mpr (by simpa using small)
  have front : ∀ followed, lowercaseWithin followed false (casedEdge preceded) =
      lowercaseFrom false (casedEdge preceded) := by
    cases preceded <;> decide +kernel
  have before : (casedEdge preceded).foldl casedAfter false = preceded := by
    cases preceded <;> decide +kernel
  have behind : casedFirst (casedEdge followed) = followed := by
    cases followed <;> decide +kernel
  have bound := found.sublist.count_le sigma
  rw [lowercaseFrom_append, front, before, lowercaseFrom_append, behind, List.count_append,
    List.count_append, edge, edge] at bound
  omega

/-- A text whose lowercase occurs in that of every text it occurs in is steady. -/
theorem steady_of_isInfix {text : List Char}
    (found : ∀ whole, text <:+: whole →
      lowercaseFrom false text <:+: lowercaseFrom false whole) : Steady text := by
  -- A context can only turn a final sigma into another one or the other way around, so a text whose
  -- sigmas of both kinds are no fewer in every context is the same in each of them.
  have count : ∀ followed preceded sigma, sigma ≠ 'α' →
      (lowercaseFrom false text).count sigma ≤
        (lowercaseWithin followed preceded text).count sigma := by
    intro followed preceded sigma small
    exact count_within_of_isInfix small (found _ (List.infix_append' _ _ _))
  have within := count
  simp only [← lowercaseWithin_alone] at within
  have finals : ∀ followed preceded, (lowercaseWithin false false text).count 'ς' ≤
      (lowercaseWithin followed preceded text).count 'ς' :=
    fun followed preceded => within followed preceded 'ς' (by decide)
  have others : ∀ followed preceded, (lowercaseWithin false false text).count 'σ' ≤
      (lowercaseWithin followed preceded text).count 'σ' :=
    fun followed preceded => within followed preceded 'σ' (by decide)
  have preceded : lowercaseWithin false true text = lowercaseWithin false false text := by
    have sharpens : List.Forall₂ Sharpens (lowercaseWithin false false text)
        (lowercaseWithin false true text) :=
      sharpens_lowercaseWithin (fun _ => rfl) id text
    have totals := (count_of_sharpens sharpens).2
    have least := others false true
    exact (eq_of_sharpens sharpens (by omega)).symm
  intro behind before
  rw [← lowercaseWithin_alone]
  cases behind
  · cases before
    · rfl
    · exact preceded
  · have sharpens : List.Forall₂ Sharpens (lowercaseWithin true before text)
        (lowercaseWithin false before text) :=
      sharpens_lowercaseWithin id (fun _ => rfl) text
    have alone : lowercaseWithin false before text = lowercaseWithin false false text := by
      cases before
      · rfl
      · exact preceded
    rw [alone] at sharpens
    exact eq_of_sharpens sharpens (finals true before)

/-- The texts whose lowercase occurs wherever they do are the steady ones. -/
theorem steady_iff (text : List Char) :
    Steady text ↔ ∀ whole, text <:+: whole →
      lowercaseFrom false text <:+: lowercaseFrom false whole :=
  ⟨fun steady _ part => steady.isInfix part, steady_of_isInfix⟩

end FacetedQuery.Text
