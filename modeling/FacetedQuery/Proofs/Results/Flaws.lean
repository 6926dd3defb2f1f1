import FacetedQuery.Fault
import FacetedQuery.Proofs.Outcome
import FacetedQuery.Solution
import Mathlib.Data.List.Induction

/-!
# Flaws of rows

A reader takes one row after the other.  It stops at the first row in which it finds a flaw, and
what is a flaw may depend on the rows before.  Whether two kinds of flaws stop it alike is decided
at the first row that has either.
-/

namespace FacetedQuery

open Outcome (bind_eq_error bind_eq_ok)

/-- What is wrong with a row at an index behind the rows before it. -/
abbrev Flaw :=
  List Solution → Solution → Nat → MappingFault → Prop

/-- No row has a flaw. -/
def Flaw.Spares (flaw : Flaw) (rows : List Solution) : Prop :=
  ∀ before row after, rows = before ++ row :: after → ∀ fault, ¬flaw before row before.length fault

/-- The first row that has a flaw has one with this fault. -/
def Flaw.FirstIn (flaw : Flaw) (rows : List Solution) (fault : MappingFault) : Prop :=
  ∃ before row after, rows = before ++ row :: after ∧ flaw.Spares before ∧
    flaw before row before.length fault

/-- What comes of rows is a result exactly if no row has a flaw, and else the fault of the first row
that has one. -/
structure StopsAtFirst (flaw : Flaw) (rows : List Solution) (outcome : Except MappingFault α) :
    Prop where
  succeeds : (∃ result, outcome = .ok result) ↔ flaw.Spares rows
  fails : ∀ fault, outcome = .error fault ↔ flaw.FirstIn rows fault

variable {α : Type} {flaw other : Flaw} {rows : List Solution} {last : Solution}
  {fault : MappingFault}

theorem split_append {before after : List Solution} {row : Solution}
    (same : rows ++ [last] = before ++ row :: after) :
    rows = before ∧ last = row ∨ ∃ more, rows = before ++ row :: more := by
  rcases List.eq_nil_or_concat after with rfl | ⟨more, final, rfl⟩
  · obtain ⟨rfl, lasts⟩ := List.append_inj' same rfl
    exact .inl ⟨rfl, List.head_eq_of_cons_eq lasts⟩
  · rw [List.concat_eq_append, ← List.cons_append, ← List.append_assoc] at same
    exact .inr ⟨more, (List.append_inj' same rfl).1⟩

theorem exists_split_append {holds : List Solution → Solution → Prop} :
    (∃ before row after, rows ++ [last] = before ++ row :: after ∧ holds before row) ↔
      (∃ before row after, rows = before ++ row :: after ∧ holds before row) ∨ holds rows last := by
  constructor
  · rintro ⟨before, row, after, same, held⟩
    rcases split_append same with ⟨rfl, rfl⟩ | ⟨more, earlier⟩
    · exact .inr held
    · exact .inl ⟨before, row, more, earlier, held⟩
  · rintro (⟨before, row, after, rfl, held⟩ | held)
    · exact ⟨before, row, after ++ [last], by simp, held⟩
    · exact ⟨rows, last, [], rfl, held⟩

namespace Flaw

theorem spares_nil : flaw.Spares [] := by
  intro before row after same
  cases before <;> cases same

theorem spares_append : flaw.Spares (rows ++ [last]) ↔
    flaw.Spares rows ∧ ∀ fault, ¬flaw rows last rows.length fault := by
  constructor
  · intro spares
    refine ⟨fun before row after same => ?_, spares rows last [] rfl⟩
    exact spares before row (after ++ [last]) (by simp [same])
  · rintro ⟨former, new⟩ before row after same
    rcases split_append same with ⟨rfl, rfl⟩ | ⟨more, earlier⟩
    · exact new
    · exact former before row more earlier

theorem firstIn_append : flaw.FirstIn (rows ++ [last]) fault ↔
    flaw.FirstIn rows fault ∨ flaw.Spares rows ∧ flaw rows last rows.length fault :=
  exists_split_append

/-- Of a flaw that depends on the row alone, rows are spared if each of them is. -/
theorem spares_iff_forall {holds : Solution → Prop}
    (flawless : ∀ before row index, (∀ fault, ¬flaw before row index fault) ↔ holds row) :
    flaw.Spares rows ↔ ∀ row ∈ rows, holds row := by
  constructor
  · intro spares row isRow
    obtain ⟨before, after, split⟩ := List.append_of_mem isRow
    exact (flawless before row before.length).mp (spares before row after split)
  · rintro all before row after rfl
    exact (flawless before row before.length).mpr (all row (by simp))

theorem FirstIn.not_spares (first : flaw.FirstIn rows fault) : ¬flaw.Spares rows := by
  obtain ⟨before, row, after, same, -, flawed⟩ := first
  exact fun spares => spares before row after same fault flawed

end Flaw

/-- Reading that takes one row after the other stops at the first flaw if each step does. -/
theorem StopsAtFirst.of_append {read : List Solution → Except MappingFault α}
    (step : α → Solution → Nat → Except MappingFault α) (start : ∃ found, read [] = .ok found)
    (more : ∀ rows last,
      read (rows ++ [last]) = read rows >>= fun found => step found last rows.length)
    (flaws : ∀ rows found last fault, read rows = .ok found →
      (step found last rows.length = .error fault ↔ flaw rows last rows.length fault))
    (rows : List Solution) : StopsAtFirst flaw rows (read rows) := by
  induction rows using List.reverseRecOn with
  | nil =>
      obtain ⟨found, isFound⟩ := start
      refine ⟨iff_of_true ⟨found, isFound⟩ Flaw.spares_nil, fun fault => ?_⟩
      rw [isFound]
      exact iff_of_false nofun fun first => first.not_spares Flaw.spares_nil
  | append_singleton rows last induction =>
      obtain ⟨succeeds, fails⟩ := induction
      rw [more]
      refine ⟨?_, fun fault => ?_⟩
      · rw [Flaw.spares_append, ← succeeds]
        constructor
        · rintro ⟨result, made⟩
          obtain ⟨found, isFound, stepped⟩ := bind_eq_ok.mp made
          refine ⟨⟨found, isFound⟩, fun fault flawed => ?_⟩
          cases stepped.symm.trans ((flaws rows found last fault isFound).mpr flawed)
        · rintro ⟨⟨found, isFound⟩, fine⟩
          rw [Outcome.bind_of_ok isFound, Outcome.exists_ok_iff]
          exact fun fault failed => fine fault ((flaws rows found last fault isFound).mp failed)
      · rw [bind_eq_error, Flaw.firstIn_append, fails, ← succeeds]
        refine or_congr_right ⟨?_, ?_⟩
        · rintro ⟨found, isFound, failed⟩
          exact ⟨⟨found, isFound⟩, (flaws rows found last fault isFound).mp failed⟩
        · rintro ⟨⟨found, isFound⟩, flawed⟩
          exact ⟨found, isFound, (flaws rows found last fault isFound).mpr flawed⟩

/-- The row that a fault names. -/
def MappingFault.row? : MappingFault → Option Nat
  | .missingColumn _ row => some row
  | .invalidValue _ row _ _ => some row
  | _ => none

namespace Flaw

/-- The faults of a row name it. -/
def NamesRow (flaw : Flaw) : Prop :=
  ∀ before row index fault, flaw before row index fault → fault.row? = some index

/-- Two kinds of flaws show in a row alike as long as neither has shown in a row before it. -/
def AgreesOn (flaw other : Flaw) (rows : List Solution) : Prop :=
  ∀ before row after, rows = before ++ row :: after → flaw.Spares before → other.Spares before →
    ∀ fault, flaw before row before.length fault ↔ other before row before.length fault

theorem AgreesOn.alike (agrees : flaw.AgreesOn other rows) :
    (flaw.Spares rows ↔ other.Spares rows) ∧
      ∀ fault, flaw.FirstIn rows fault ↔ other.FirstIn rows fault := by
  induction rows using List.reverseRecOn with
  | nil =>
      refine ⟨iff_of_true spares_nil spares_nil, fun fault => ?_⟩
      exact iff_of_false (fun first => first.not_spares spares_nil)
        fun first => first.not_spares spares_nil
  | append_singleton rows last induction =>
      obtain ⟨spares, first⟩ := induction fun before row after same =>
        agrees before row (after ++ [last]) (by simp [same])
      have atLast : flaw.Spares rows → ∀ fault,
          flaw rows last rows.length fault ↔ other rows last rows.length fault :=
        fun spared => agrees rows last [] rfl spared (spares.mp spared)
      refine ⟨?_, fun fault => ?_⟩
      · rw [spares_append, spares_append, ← spares]
        exact and_congr_right fun spared => forall_congr' fun fault =>
          not_congr (atLast spared fault)
      · rw [firstIn_append, firstIn_append, ← first, ← spares]
        exact or_congr_right (and_congr_right fun spared => atLast spared fault)

theorem FirstIn.at_row {before after : List Solution} {row : Solution} (named : flaw.NamesRow)
    (first : flaw.FirstIn rows fault) (same : rows = before ++ row :: after)
    (isRow : fault.row? = some before.length) : flaw before row before.length fault := by
  obtain ⟨earlier, found, later, split, -, flawed⟩ := first
  have length : earlier.length = before.length :=
    Option.some_inj.mp ((named _ _ _ _ flawed).symm.trans isRow)
  obtain ⟨rfl, rest⟩ := List.append_inj (split.symm.trans same) length
  obtain ⟨rfl, -⟩ := List.cons.inj rest
  exact flawed

end Flaw

/-- What stops at the first flaw of one kind stops at the first one of another kind exactly if both
show first in the same row. -/
theorem StopsAtFirst.other_iff {outcome : Except MappingFault α}
    (stops : StopsAtFirst flaw rows outcome) (named : flaw.NamesRow) (otherNamed : other.NamesRow) :
    StopsAtFirst other rows outcome ↔ flaw.AgreesOn other rows := by
  constructor
  · intro otherStops before row after same spares otherSpares fault
    constructor
    · intro flawed
      have failed := (stops.fails fault).mpr ⟨before, row, after, same, spares, flawed⟩
      exact ((otherStops.fails fault).mp failed).at_row otherNamed same (named _ _ _ _ flawed)
    · intro flawed
      have failed := (otherStops.fails fault).mpr ⟨before, row, after, same, otherSpares, flawed⟩
      exact ((stops.fails fault).mp failed).at_row named same (otherNamed _ _ _ _ flawed)
  · intro agrees
    obtain ⟨spares, first⟩ := agrees.alike
    exact ⟨stops.succeeds.trans spares, fun fault => (stops.fails fault).trans (first fault)⟩

end FacetedQuery
