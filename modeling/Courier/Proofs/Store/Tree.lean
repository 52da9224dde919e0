import Courier.Proofs.Store.Walk

/-! # Stores that are trees

A store is a tree if everything in it stands in a directory. A walk then goes from directory to directory,
so an entry that is no directory is made or removed without a change to any other path.
-/

namespace Courier

theorem Node.socket_ne_directory (id : Nat) : Node.socket id ≠ .directory := nofun

namespace Store

variable {store later : Store} {approach : Approach} {links : Nat} {here place other : Place}
  {slash forDirectory : Bool} {name path : String} {steps rest : List String} {arrival : Arrival} {node : Node}

/-- Whether everything but the root stands in a directory, and the working directory is one. -/
structure IsTree (store : Store) : Prop where
  parent : ∀ {place : Place} {name : String} {node : Node}, store.nodes.get? (place ++ [name]) = some node →
    store.nodes.get? place = some .directory
  workDir : store.nodes.get? store.workDir = some .directory

namespace IsTree

theorem above (h : store.IsTree) (hnode : store.nodes.get? (place ++ rest) = some node) (hrest : rest ≠ []) :
    store.nodes.get? place = some .directory := by
  induction rest generalizing place with
  | nil => exact absurd rfl hrest
  | cons name rest ih =>
    by_cases hlast : rest = []
    · subst hlast
      exact h.parent hnode
    · rw [← List.singleton_append, ← List.append_assoc] at hnode
      exact h.parent (ih hnode hlast)

theorem root (h : store.IsTree) : store.nodes.get? [] = some .directory := by
  by_cases hroot : store.workDir = []
  · exact hroot ▸ h.workDir
  · have hbelow : store.nodes.get? ([] ++ store.workDir) = some .directory := h.workDir
    exact h.above hbelow hroot

theorem dropLast (h : store.IsTree) (hhere : store.nodes.get? here = some .directory) :
    store.nodes.get? here.dropLast = some .directory := by
  rcases List.eq_nil_or_concat here with rfl | ⟨above, name, rfl⟩
  · exact hhere
  · rw [List.concat_eq_append, List.dropLast_concat]
    rw [List.concat_eq_append] at hhere
    exact h.parent hhere

/-- A walk ends at an entry of a directory if its path ends with a name, and at a directory otherwise. -/
theorem walk (h : store.IsTree) (hhere : store.nodes.get? here = some .directory)
    (hwalk : store.walk approach links here slash steps = .ok arrival) :
    (arrival.isNamed = false ∧ arrival.node = some .directory) ∨
      (arrival.isNamed = true ∧
        ∃ above name, arrival.place = above ++ [name] ∧ store.nodes.get? above = some .directory) := by
  fun_induction Store.walk store approach links here slash steps with
  | case1 links here slash =>
    cases hwalk
    exact .inl ⟨rfl, hhere⟩
  | case2 links here slash rest ih => exact ih hhere hwalk
  | case3 links here slash rest hup ih => exact ih (h.dropLast hhere) hwalk
  | case9 links here slash name rest hup hhere' _ hsize place hnode hrest ih => exact ih hnode hwalk
  | case12 here slash name rest hup hhere' _ hsize place target hnode hgoes links ih =>
    refine ih ?_ hwalk
    split
    · exact h.root
    · exact hhere
  | case6 | case8 | case10 | case13 =>
    cases hwalk
    exact .inr ⟨rfl, _, _, rfl, hhere⟩
  | _ => cases hwalk

theorem find (h : store.IsTree) (hfind : store.find approach path = .ok arrival) :
    (arrival.isNamed = false ∧ arrival.node = some .directory) ∨
      (arrival.isNamed = true ∧
        ∃ above name, arrival.place = above ++ [name] ∧ store.nodes.get? above = some .directory) := by
  refine h.walk ?_ (find_eq_ok_iff.1 hfind).2
  split
  · exact h.root
  · exact h.workDir

theorem vacancy (h : store.IsTree) (hvacancy : store.vacancy forDirectory path = .ok place) :
    store.nodes.get? place = none ∧
      ∃ above name, place = above ++ [name] ∧ store.nodes.get? above = some .directory := by
  obtain ⟨arrival, hfind, rfl, hnamed, hnode, -⟩ := vacancy_eq_ok_iff.1 hvacancy
  rcases h.find hfind with ⟨hunnamed, -⟩ | ⟨-, hparent⟩
  · rw [hunnamed] at hnamed
    cases hnamed
  · exact ⟨(node_find hfind).symm.trans hnode, hparent⟩

theorem setNode (h : store.IsTree) (hvacancy : store.vacancy forDirectory path = .ok place) :
    (store.setNode place node).IsTree := by
  obtain ⟨hvacant, above, name, rfl, habove⟩ := h.vacancy hvacancy
  have hkeeps := keeps_setNode hvacant node
  refine ⟨fun {other last found} hfound => ?_, hkeeps.nodes h.workDir⟩
  by_cases hnew : other ++ [last] = above ++ [name]
  · rw [(List.append_inj' hnew rfl).1]
    exact hkeeps.nodes habove
  · rw [Store.setNode, Table.get?_insert_of_ne _ _ hnew] at hfound
    exact hkeeps.nodes (h.parent hfound)

theorem get?_removeTree (h : store.IsTree) (hnode : store.nodes.get? place = some node)
    (hleaf : node ≠ .directory) (other : Place) :
    (store.removeTree place).nodes.get? other = if other = place then none else store.nodes.get? other := by
  have hfilter : (store.removeTree place).nodes.get? other
      = if place.isPrefixOf other = true then none else store.nodes.get? other := by
    simp only [Store.removeTree, Table.filter]
    by_cases hunder : place.isPrefixOf other = true <;> simp [hunder]
  rw [hfilter]
  by_cases hunder : place.isPrefixOf other = true
  · rw [if_pos hunder]
    obtain ⟨rest, rfl⟩ := List.isPrefixOf_iff_prefix.1 hunder
    split
    · rfl
    · rename_i hbelow
      cases hother : store.nodes.get? (place ++ rest) with
      | none => rfl
      | some found =>
        have hdirectory := h.above hother (by simpa using hbelow)
        rw [hnode] at hdirectory
        exact absurd (Option.some.inj hdirectory) hleaf
  · rw [if_neg hunder, if_neg]
    rintro rfl
    exact hunder (List.isPrefixOf_iff_prefix.2 List.prefix_rfl)

theorem removeTree_eq (h : store.IsTree) (hnode : store.nodes.get? place = some node)
    (hleaf : node ≠ .directory) :
    store.removeTree place = { store with nodes := store.nodes.erase place } := by
  have hnodes : (store.removeTree place).nodes = store.nodes.erase place := by
    ext other
    rw [h.get?_removeTree hnode hleaf, Table.get?_erase]
  rw [← hnodes]
  rfl

theorem removeTree (h : store.IsTree) (hnode : store.nodes.get? place = some node)
    (hleaf : node ≠ .directory) : (store.removeTree place).IsTree := by
  have hremains {other : Place} (hother : store.nodes.get? other = some .directory) :
      (store.removeTree place).nodes.get? other = some .directory := by
    rw [h.get?_removeTree hnode hleaf, if_neg, hother]
    rintro rfl
    rw [hnode] at hother
    exact hleaf (Option.some.inj hother)
  refine ⟨fun {other name found} hfound => ?_, hremains h.workDir⟩
  rw [h.get?_removeTree hnode hleaf] at hfound
  split at hfound
  · cases hfound
  · exact hremains (h.parent hfound)

theorem leads_removeTree {id : Nat} (h : store.IsTree) (hnode : store.nodes.get? place = some (.socket id)) :
    Leads store (store.removeTree place) := by
  have hremains {other : Place} {found : Node} (hother : store.nodes.get? other = some found)
      (hkind : found ≠ .socket id) : (store.removeTree place).nodes.get? other = some found := by
    rw [h.get?_removeTree hnode (Node.socket_ne_directory id), if_neg, hother]
    rintro rfl
    rw [hnode] at hother
    exact hkind (Option.some.inj hother).symm
  exact ⟨fun hother => hremains hother nofun, fun hother => hremains hother nofun, rfl⟩

/-- The place of a socket is free for the path that led to it once the socket is removed. -/
theorem vacancy_removeTree {id : Nat} (h : store.IsTree)
    (hlookup : store.lookup .entry path = .ok (place, .socket id)) :
    (store.removeTree place).vacancy false path = .ok place := by
  have hsocket := lookup_node hlookup
  have hgone : (store.removeTree place).nodes.get? place = none := by
    rw [h.get?_removeTree hsocket (Node.socket_ne_directory id), if_pos rfl]
  obtain ⟨arrival, hfind, rfl, hnode, hslash⟩ := lookup_eq_ok_iff.1 hlookup
  have hplain : arrival.slash = false := Bool.eq_false_iff.2 fun htrue => nomatch hslash htrue
  have hvacancy : (store.removeTree arrival.place).find .vacancy path = .ok { arrival with node := none } := by
    rw [← hgone]
    refine (h.leads_removeTree hsocket).find nofun (fun slash hhad hfollows => ?_) hfind ?_
    · rw [hplain] at hhad
      exact absurd (hhad hfollows) Bool.false_ne_true
    · rw [hgone]
      nofun
  refine vacancy_eq_ok_iff.2 ⟨_, hvacancy, rfl, ?_, rfl, fun htrue => absurd htrue (by simp [hplain])⟩
  rcases h.find hfind with ⟨-, hdirectory⟩ | ⟨hnamed, -⟩
  · rw [hnode] at hdirectory
    cases hdirectory
  · exact hnamed

end IsTree

theorem isTree_initial : initial.IsTree := by
  have hnodes (place : Place) : initial.nodes.get? place =
      if place = ["dev", "full"] then some (.device true)
      else if place = ["dev", "null"] then some (.device false)
      else if place ∈ [[], ["tmp"], ["work"], ["dev"]] then some .directory else none := by
    simp only [initial, Table.ofList, Table.get?_insert, List.foldl_cons, List.foldl_nil]
    grind [Table.get?_empty]
  refine ⟨fun {place} {name} {node} hnode => ?_, rfl⟩
  rw [hnodes] at hnode ⊢
  rcases place with _ | ⟨top, _ | ⟨below, rest⟩⟩
  · rfl
  · grind
  · simp at hnode

end Store

end Courier
