import FacetedQuery.Proofs.Sparql.Contents
import FacetedQuery.Proofs.Sparql.Path

/-!
# Groups part by part

A group is put together from parts that are read the same whatever other parts follow them.  Of the
elements of a part only that they obey the rules of scope, which variables they bind and which they
assign to matters to the rest.
-/

namespace FacetedQuery.Sparql.Grammar

open Reader

/-- What may follow an element of a group. -/
structure Follows (tokens : List Token) : Prop where
  noDot : mark .dot tokens = none
  noUnion : word "UNION" tokens = none
  noSelect : word "SELECT" tokens = none

/-- Elements that obey the rules of scope, bind variables and assign to some of them. -/
structure Summary (found : List Element) (scope assigned : List String) : Prop where
  sound : elementsAreSound found = true
  scope : scopeOfElements found = scope
  targets : targets found = assigned

/-- Tokens that are elements of a group in front of anything that may follow. -/
structure Forms (tokens : List Token) (scope assigned : List String) : Prop where
  follows : ∀ {rest}, Follows rest → Follows (tokens ++ rest)
  contents : ∀ {rest behind last}, Follows rest → Contents rest behind last →
    ∃ found, Summary found scope assigned ∧ Contents (tokens ++ rest) (found ++ behind) last

/-- Tokens that are the rest of a group up to the brace that closes it. -/
structure Fills (tokens : List Token) (scope assigned : List String) (rest : List Token) :
    Prop where
  follows : Follows tokens
  contents : ∃ found, Summary found scope assigned ∧
    Contents tokens found (.mark .closeBrace :: rest)

theorem Summary.nil : Summary [] [] [] :=
  ⟨rfl, rfl, rfl⟩

theorem Summary.append {first second : List Element} {scope more assigned further : List String}
    (summary : Summary first scope assigned) (behind : Summary second more further)
    (fresh : ∀ target ∈ further, target ∉ scope) :
    Summary (first ++ second) (scope ++ more) (assigned ++ further) where
  sound := (elementsAreSound_append first second).mpr
    ⟨summary.sound, behind.sound, by rwa [behind.targets, summary.scope]⟩
  scope := by rw [scope_append, summary.scope, behind.scope]
  targets := by rw [targets_append, summary.targets, behind.targets]

theorem follows_closeBrace (rest : List Token) : Follows (.mark .closeBrace :: rest) :=
  ⟨rfl, rfl, rfl⟩

theorem follows_var (name : String) (rest : List Token) : Follows (.var name :: rest) :=
  ⟨rfl, rfl, rfl⟩

theorem follows_openBrace (rest : List Token) : Follows (.mark .openBrace :: rest) :=
  ⟨rfl, rfl, rfl⟩

theorem follows_word {letters : String} (rest : List Token)
    (other : capitals letters ≠ "UNION" ∧ capitals letters ≠ "SELECT") :
    Follows (.word letters :: rest) where
  noDot := rfl
  noUnion := by rw [word_word, if_neg other.1]
  noSelect := by rw [word_word, if_neg other.2]

section

variable {tokens more rest : List Token} {scope others assigned further : List String}

theorem Forms.nil : Forms [] [] [] where
  follows follows := follows
  contents _ contents := ⟨[], .nil, contents⟩

theorem Forms.append (first : Forms tokens scope assigned) (second : Forms more others further)
    (fresh : ∀ target ∈ further, target ∉ scope) :
    Forms (tokens ++ more) (scope ++ others) (assigned ++ further) where
  follows follows := by
    rw [List.append_assoc]
    exact first.follows (second.follows follows)
  contents follows contents := by
    obtain ⟨found, summary, inner⟩ := second.contents follows contents
    obtain ⟨front, summaryFront, outer⟩ := first.contents (second.follows follows) inner
    refine ⟨front ++ found, summaryFront.append summary fresh, ?_⟩
    rw [List.append_assoc, List.append_assoc]
    exact outer

theorem Forms.appendPlain (first : Forms tokens scope assigned) (second : Forms more others []) :
    Forms (tokens ++ more) (scope ++ others) assigned := by
  simpa using first.append second (by simp)

theorem Fills.nil (rest : List Token) : Fills (.mark .closeBrace :: rest) [] [] rest :=
  ⟨follows_closeBrace rest, [], .nil, .nil rest⟩

theorem Forms.fills (first : Forms tokens scope assigned) (second : Fills more others further rest)
    (fresh : ∀ target ∈ further, target ∉ scope) :
    Fills (tokens ++ more) (scope ++ others) (assigned ++ further) rest := by
  obtain ⟨found, summary, inner⟩ := second.contents
  obtain ⟨front, summaryFront, outer⟩ := first.contents second.follows inner
  exact ⟨first.follows second.follows, front ++ found, summaryFront.append summary fresh, outer⟩

theorem Fills.group (fills : Fills tokens scope assigned rest) :
    ∃ group : Group, group.scope = scope ∧
      Finds Readers.group (.mark .openBrace :: tokens) group rest := by
  obtain ⟨found, summary, contents⟩ := fills.contents
  obtain ⟨list, same, finds⟩ := exists_group contents fills.follows.noSelect summary.sound
  refine ⟨.elements list, ?_, finds⟩
  rw [Group.scope, ← scope_parts, same, summary.scope]

theorem Forms.group (forms : Forms tokens scope assigned) (rest : List Token) :
    ∃ group : Group, group.scope = scope ∧
      Finds Readers.group
        (.mark .openBrace :: (tokens ++ .mark .closeBrace :: rest)) group rest := by
  obtain ⟨group, same, finds⟩ := (forms.fills (Fills.nil rest) (by simp)).group
  exact ⟨group, by simpa using same, finds⟩

end

/-- An element that is found in front of everything is a part of a group. -/
theorem Forms.ofElement {tokens : List Token} {scope assigned : List String}
    (follows : ∀ rest, Follows (tokens ++ rest))
    (apart : ∀ rest, block pathVerb (tokens ++ rest) = none)
    (finds : ∀ rest, Follows rest → ∃ part : Element, parts [part] = [part] ∧
      Summary [part] scope assigned ∧ Finds patternElement (tokens ++ rest) part rest) :
    Forms tokens scope assigned where
  follows _ := follows _
  contents follows contents := by
    obtain ⟨part, single, summary, found⟩ := finds _ follows
    have behind := contents.element found (apart _) follows.noDot
    rw [single] at behind
    exact ⟨[part], summary, behind⟩

theorem block_word {letters : String} (noValue : letters ≠ "true" ∧ letters ≠ "false")
    (tokens : List Token) : block pathVerb (.word letters :: tokens) = none := by
  have noTrue : smallWord "true" (.word letters :: tokens) = none := by
    change Option.map _ (if letters = "true" then some () else none) = none
    rw [if_neg noValue.1]
    rfl
  have noFalse : smallWord "false" (.word letters :: tokens) = none := by
    change Option.map _ (if letters = "false" then some () else none) = none
    rw [if_neg noValue.2]
    rfl
  have noLiteral : literalForm (.word letters :: tokens) = none := by
    unfold literalForm booleanForm
    rw [orElse_apply, orElse_apply, orElse_apply, bind_apply, noTrue, bind_apply, noFalse]
    rfl
  have noNode : node pathVerb (.word letters :: tokens) = none := by
    change nodeWith pathVerb _ _ = none
    unfold nodeWith
    simp only [orElse_apply, map_apply, noLiteral]
    rfl
  refine block_of_none ?_
  unfold triples
  rw [bind_apply, noNode]
  rfl

theorem block_openBrace (tokens : List Token) :
    block pathVerb (.mark .openBrace :: tokens) = none :=
  rfl

section

variable {tokens path : List Token} {scope assigned : List String}

theorem Forms.optional (forms : Forms tokens scope assigned) :
    Forms (.word "OPTIONAL" :: .mark .openBrace :: (tokens ++ [.mark .closeBrace])) scope [] := by
  refine .ofElement (fun rest => follows_word _ (by decide)) (fun rest => block_word (by decide) _)
    fun rest _ => ?_
  obtain ⟨group, same, finds⟩ := forms.group rest
  refine ⟨.optional group, rfl, ⟨rfl, ?_, rfl⟩, ?_⟩
  · rw [scopeOfElements, Element.scope, same, scopeOfElements, List.append_nil]
  · simpa using finds.optional

theorem Forms.values (target : String) (names : List IriName) :
    Forms (.word "VALUES" :: .var target :: .mark .openBrace ::
      (names.map .name ++ [.mark .closeBrace])) [target] [] := by
  refine .ofElement (fun rest => follows_word _ (by decide)) (fun rest => block_word (by decide) _)
    fun rest _ => ?_
  obtain ⟨widths, read⟩ := exists_inlineData target names rest
  exact ⟨.values ⟨[target], widths⟩, rfl, ⟨rfl, rfl, rfl⟩,
    by simpa using Finds.values read⟩

theorem Forms.filter {condition : Expression} (plain : condition.isAggregated = false)
    (finds : ∀ rest, Finds Readers.expression (tokens ++ .mark .closeParen :: rest) condition
      (.mark .closeParen :: rest)) :
    Forms (.word "FILTER" :: .mark .openParen :: (tokens ++ [.mark .closeParen])) [] [] := by
  refine .ofElement (fun rest => follows_word _ (by decide)) (fun rest => block_word (by decide) _)
    fun rest _ => ⟨.filter condition, rfl, ⟨?_, rfl, rfl⟩, ?_⟩
  · simp [elementsAreSound, Element.isPlain, plain, bindsFresh]
  · simpa using (finds rest).condition.filter

theorem Forms.bind {value : Expression} (target : String) (plain : value.isAggregated = false)
    (finds : ∀ rest, Finds Readers.expression (tokens ++ .word "AS" :: rest) value
      (.word "AS" :: rest)) :
    Forms (.word "BIND" :: .mark .openParen :: (tokens ++ [.word "AS", .var target,
      .mark .closeParen])) [target] [target] := by
  refine .ofElement (fun rest => follows_word _ (by decide)) (fun rest => block_word (by decide) _)
    fun rest _ => ⟨.bind value target, rfl, ⟨?_, rfl, rfl⟩, ?_⟩
  · simp [elementsAreSound, Element.isPlain, plain, bindsFresh]
  · simpa using (finds (.var target :: .mark .closeParen :: rest)).assignment.bind

theorem summary_link (subject : String) (found : Path) (object : String) :
    Summary [.triples [link subject found object]] [subject, object] [] :=
  ⟨rfl, rfl, rfl⟩

theorem Forms.link (arePath : ArePath path) (subject object : String) :
    Forms (.var subject :: (path ++ [.var object, .mark .dot])) [subject, object] [] where
  follows _ := follows_var _ _
  contents {rest} _ _ _ contents := by
    obtain ⟨found, read⟩ := exists_link arePath
    have triple := read subject object .dot rest (.inl rfl)
    exact ⟨[.triples [Grammar.link subject found object]], summary_link subject found object,
      by simpa using contents.triple triple⟩

theorem Fills.link (arePath : ArePath path) (subject object : String) (rest : List Token) :
    Fills (.var subject :: (path ++ .var object :: .mark .closeBrace :: rest)) [subject, object] []
      rest := by
  obtain ⟨found, read⟩ := exists_link arePath
  have triple := read subject object .closeBrace rest (.inr rfl)
  exact ⟨follows_var _ _, _, summary_link subject found object, .lastTriple triple⟩

theorem Forms.optionalLink (arePath : ArePath path) (subject object : String) :
    Forms (.word "OPTIONAL" :: .mark .openBrace :: .var subject ::
      (path ++ [.var object, .mark .closeBrace])) [subject, object] [] := by
  refine .ofElement (fun rest => follows_word _ (by decide)) (fun rest => block_word (by decide) _)
    fun rest _ => ?_
  obtain ⟨group, same, finds⟩ := (Fills.link arePath subject object rest).group
  refine ⟨.optional group, rfl, ⟨rfl, ?_, rfl⟩, ?_⟩
  · rw [scopeOfElements, Element.scope, same, scopeOfElements, List.append_nil]
  · simpa using finds.optional

end

end FacetedQuery.Sparql.Grammar
