import FacetedQuery.Proofs.Template.Passage

/-!
# Parts of groups as texts

Texts that become parts of a group wherever they are put, with or without a place in them for a
block of constraints.  Texts on lines of their own are such a text again.
-/

namespace FacetedQuery.Template

open Sparql (Prologue Token)
open Sparql.Grammar
open Sparql.Token (Spelled)

variable {prologue : Prologue} {fills : List (Placeholder × List Char)}

/-- Lines that become a part of a group, whatever is filled elsewhere. -/
structure Part (prologue : Prologue) (lines : List String) (scope : List String) : Prop where
  nonempty : lines ≠ []
  onLines : ∀ line ∈ lines, '\n' ∉ line.toList
  passage : ∀ fills, Passage prologue fills lines scope []

namespace Part

variable {lines others : List String} {scope more : List String}

theorem append (first : Part prologue lines scope) (second : Part prologue others more) :
    Part prologue (lines ++ others) (scope ++ more) where
  nonempty nothing := first.nonempty (List.append_eq_nil_iff.mp nothing).1
  onLines line member := by
    rcases List.mem_append.mp member with member | member
    · exact first.onLines line member
    · exact second.onLines line member
  passage fills := (first.passage fills).appendPlain (second.passage fills)

theorem ofSpelled {line : String} {text : List Char} {tokens : List Token}
    (isLine : line.toList = text) (spelled : Spelled text tokens)
    (passage : ∀ fills, Passage prologue fills [line] scope []) : Part prologue [line] scope where
  nonempty := by simp
  onLines other member := by
    obtain rfl := List.mem_singleton.mp member
    rw [isLine]
    exact spelled.line
  passage := passage

theorem link {subject path object line : String} (named : Named subject)
    (walkable : Walkable prologue path) (namedObject : Named object)
    (isLine : line.toList = linkText subject path object ['.']) :
    Part prologue [line] [subject, object] :=
  .ofSpelled isLine (spelled_link named walkable namedObject .dot) fun _ =>
    .link named walkable namedObject isLine

theorem optionalLink {subject path object line : String} (named : Named subject)
    (walkable : Walkable prologue path) (namedObject : Named object)
    (isLine : line.toList = optionalStart ++ linkText subject path object ['\x7d']) :
    Part prologue [line] [subject, object] :=
  .ofSpelled isLine (spelled_optional named walkable namedObject) fun _ =>
    .optionalLink named walkable namedObject isLine

theorem plain {tokens : List Token} (plain : PlainLines lines tokens) (nonempty : lines ≠ [])
    (forms : Forms tokens scope []) (admitted : ∀ token ∈ tokens, prologue.admits token = true) :
    Part prologue lines scope where
  nonempty := nonempty
  onLines line member := (plain.plain line member).spelled.line
  passage _ := .plain plain forms admitted

theorem onLines_groupLines {head : String} (onLine : '\n' ∉ head.toList)
    (onLines : ∀ line ∈ lines, '\n' ∉ line.toList) :
    ∀ line ∈ Text.groupLines head lines, '\n' ∉ line.toList := by
  intro line member
  simp only [Text.groupLines, List.cons_append, List.mem_cons, List.mem_append, List.mem_map,
    List.not_mem_nil, or_false] at member
  rcases member with rfl | ⟨other, inside, rfl⟩ | rfl
  · split
    · decide
    · simpa [Text.openBrace] using onLine
  · simpa using onLines other inside
  · decide

theorem optional (part : Part prologue lines scope) :
    Part prologue (Text.groupLines "OPTIONAL" lines) scope where
  nonempty := by simp [Text.groupLines]
  onLines := onLines_groupLines (by decide) part.onLines
  passage fills := (part.passage fills).optional

end Part

/-- A text that becomes a part of a group and in which nothing is filled. -/
def IsPart (prologue : Prologue) (text : String) : Prop :=
  ∃ lines scope, text = Text.join "\n" lines ∧ Part prologue lines scope

/-- A text that becomes a part of a group, with a place in it for a block of constraints. -/
def HoldsBlock (prologue : Prologue) (text : String) : Prop :=
  ∃ lines, text = Text.join "\n" lines ∧ lines ≠ [] ∧ (∀ line ∈ lines, '\n' ∉ line.toList) ∧
    ∀ {fills scope}, Passage prologue fills [Placeholder.filter.token] scope [] →
      ∃ more, Passage prologue fills lines more []

/-- A text that becomes a part of a group, which binds whatever the block in its place binds. -/
def OpensBlock (prologue : Prologue) (text : String) : Prop :=
  ∃ lines, text = Text.join "\n" lines ∧ lines ≠ [] ∧ (∀ line ∈ lines, '\n' ∉ line.toList) ∧
    ∀ {fills scope}, Passage prologue fills [Placeholder.filter.token] scope [] →
      ∃ more, scope ⊆ more ∧ Passage prologue fills lines more []

/-- A query around the place of a block of constraints that restrict a variable.  What is filled
before the block is given. -/
def AroundBlock (prologue : Prologue) (target : String) (given : List (Placeholder × List Char))
    (text : String) : Prop :=
  text.toList.head? ≠ some '\n' ∧
    ∀ {block scope}, Passage prologue (given ++ [(.filter, block)]) [Placeholder.filter.token] scope
      [] → (∀ name ∈ scope, name = target ∨ ConstraintBlock.IsOwn name) →
      Arranged prologue (given ++ [(.filter, block)]) text

theorem OpensBlock.holdsBlock {text : String} (opens : OpensBlock prologue text) :
    HoldsBlock prologue text := by
  obtain ⟨lines, isText, nonempty, onLines, passage⟩ := opens
  refine ⟨lines, isText, nonempty, onLines, fun place => ?_⟩
  obtain ⟨more, -, around⟩ := passage place
  exact ⟨more, around⟩

theorem IsPart.holdsBlock {text : String} (isPart : IsPart prologue text) :
    HoldsBlock prologue text := by
  obtain ⟨lines, scope, isText, part⟩ := isPart
  exact ⟨lines, isText, part.nonempty, part.onLines, fun _ => ⟨scope, part.passage _⟩⟩

theorem IsPart.line {line : String} {scope : List String} (part : Part prologue [line] scope) :
    IsPart prologue line :=
  ⟨[line], scope, rfl, part⟩

/-- Parts on lines of their own are a part. -/
theorem IsPart.join {texts : List String} (parts : ∀ text ∈ texts, IsPart prologue text)
    (nonempty : texts ≠ []) : IsPart prologue (Text.join "\n" texts) := by
  induction texts with
  | nil => exact absurd rfl nonempty
  | cons text texts induction =>
      obtain ⟨lines, scope, rfl, part⟩ := parts text (by simp)
      cases texts with
      | nil => exact ⟨lines, scope, rfl, part⟩
      | cons next texts =>
          obtain ⟨others, more, isText, further⟩ :=
            induction (fun other member => parts other (by simp [member])) (by simp)
          refine ⟨lines ++ others, scope ++ more, ?_, part.append further⟩
          rw [Text.join_append "\n" part.nonempty further.nonempty, ← isText]
          rfl

end FacetedQuery.Template
