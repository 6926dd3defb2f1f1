import FacetedQuery.Proofs.Assembly.Listings
import FacetedQuery.Proofs.Portal.Requests

/-!
# The links of the manuscript portal

The portal has one network.  Whatever constrains its links, the query for them has no blank line.
-/

namespace FacetedQuery.Manuscripts

open Template (Spaces fillAll)

/-- The only network is the one of manuscripts that had the same owner. -/
theorem query_of_network {resultClass nodesQuery : String} {groupBy : Bool} {route : ListingRoute}
    (known : portal.listing resultClass = .ok route)
    (network : (route.variant groupBy).shape = .network nodesQuery) :
    (route.variant groupBy).query = .plain networkLinks ∧ nodesQuery = networkNodes := by
  have member := (Portal.mem_of_listing known).1
  simp only [portal, listings, List.mem_cons, List.not_mem_nil, or_false] at member
  rcases member with rfl | rfl | rfl | rfl | rfl | rfl | rfl | rfl <;> cases groupBy <;>
    cases network
  all_goals exact ⟨rfl, rfl⟩

/-- The lines in front of the block. -/
def linksHead : List String :=
  ["SELECT ?source ?target (COUNT(DISTINCT ?owner) AS ?weight)", "WHERE \x7b"]

/-- The lines behind the block, up to the last one. -/
def linksBody : List String :=
  ["  ?source a frbroo:F4_Manifestation_Singleton ;", "          " ++ ownedBy ++ " ?owner .",
    "  ?target a frbroo:F4_Manifestation_Singleton ;", "          " ++ ownedBy ++ " ?owner .",
    "  FILTER(STR(?source) < STR(?target))", "\x7d"]

theorem networkLinks_eq : networkLinks = Text.join "\n"
    (linksHead ++ ["  <FILTER>"] ++ linksBody ++ ["GROUP BY ?source ?target"]) :=
  (@query_eq ["SELECT ?source ?target (COUNT(DISTINCT ?owner) AS ?weight)"] _
    ["GROUP BY ?source ?target"] (by simp)).trans (congrArg (Text.join "\n") rfl)

theorem dense_networkLinks {name block body : String} (dense : Text.Dense block)
    (finished : ((Template.ofText name networkLinks).fill .filter block).finish = .ok body) :
    Text.Dense body := by
  rw [Template.ofText_eq around_networkLinks.1, Template.fill_fillAll] at finished
  obtain ⟨-, rfl⟩ := Template.finish_eq_ok.mp finished
  have closing : fillAll [(.filter, block.toList)] "GROUP BY ?source ?target".toList =
      "GROUP BY ?source ?target".toList :=
    Template.fillAll_of_free (Template.free_of_not_mem (by decide +kernel)) _
  simp only [List.nil_append, networkLinks_eq]
  have onLine : '\n' ∉ "GROUP BY ?source ?target".toList := by decide +kernel
  have closed : Text.Closed "GROUP BY ?source ?target".toList := by decide +kernel
  have shown : Text.trim "GROUP BY ?source ?target" ≠ "" := by decide +kernel
  refine Template.dense_strip closing onLine closed shown ?_
  have lines : ∀ line ∈ linksHead ++ linksBody,
      Template.firstPlaceholder? line.toList = none ∧ '\n' ∉ line.toList ∧ Text.trim line ≠ "" := by
    have visible : ∀ line, Text.trim line ≠ "" ↔ Text.trimChars line.toList ≠
      [] := by simp [Text.trim]
    simp only [linksHead, linksBody, ownedBy, List.cons_append, List.nil_append,
      List.forall_mem_cons, String.toList_append, visible]
    repeat rw [String.toList_ofList]
    decide +kernel
  have around : ∀ line ∈ linksHead ++ linksBody,
      ∀ part ∈ Text.trimmedLines (fillAll [(.filter, block.toList)] line.toList), part ≠ "" := by
    intro line member
    obtain ⟨free, onLine, shown⟩ := lines line member
    rw [Template.trimmedLines_of_free free onLine]
    simpa using shown
  intro line member
  simp only [List.mem_append, List.mem_singleton] at member
  rcases member with (member | rfl) | member
  · exact around line (List.mem_append_left _ member)
  · rw [Template.trimmedLines_slot (show Spaces "  ".toList by decide) (by decide)
      (show "  <FILTER>" = "  " ++ Placeholder.filter.token by decide)]
    exact Text.dense_iff.mp dense
  · exact around line (List.mem_append_right _ member)

/-- No query for links has a blank line, whatever constrains them. -/
theorem dense_links {assembler : Assembler} (serves : assembler.portal = portal)
    {request : Request} {query : AssembledQuery} {nodesQuery : String}
    (assembled : assembler.assemble request = .ok query)
    (network : query.shape = .network nodesQuery) : Text.Dense query.text := by
  obtain ⟨resultClass, requested, constraints, groupBy, rfl⟩ :=
    Assembler.listing_of_network assembled network
  obtain ⟨route, template, block, body, known, isTemplate, composed, finished, rfl⟩ :=
    Assembler.listing_of_assemble assembled
  rw [serves] at known composed ⊢
  rw [(query_of_network known network).1] at isTemplate
  cases isTemplate
  have dense := dense_networkLinks
    (ConstraintBlock.dense_of_compose presentable_portal.lines composed) finished
  have declarations := Portal.shown_declarations sound_prefixes
  unfold Text.Dense at dense ⊢
  rw [Portal.linesOf_declarations]
  intro line member
  rcases List.mem_append.mp member with member | member
  · exact declarations line member
  · exact dense line member

end FacetedQuery.Manuscripts
