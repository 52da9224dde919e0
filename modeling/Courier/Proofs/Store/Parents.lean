import Courier.Proofs.Store.Tree

/-! # The directories above a path

Directories are made from the top down where they are missing, and nothing else is changed (`Raises`). Once
they are there a path `HasParents`, and making them again changes nothing.
-/

namespace Courier.Store

variable {store later : Store} {links : Nat} {here place : Place} {slash absolute : Bool}
  {name path : String} {steps rest names : List String} {arrival : Arrival}

theorem makeDirectory_eq_ok_iff : store.makeDirectory path = .ok later ↔
    ∃ place, store.vacancy true path = .ok place ∧ later = store.setNode place .directory := by
  rw [makeDirectory]
  cases store.vacancy true path with
  | error error => exact ⟨nofun, fun ⟨_, h, _⟩ => nomatch h⟩
  | ok place => simp [eq_comm]

/-- What each directory that is made keeps is kept by a store to which missing directories are added. -/
theorem makeDirectories_induct {P : Store → Prop} (h : P store)
    (hmake : ∀ {store later : Store} {above : List String}, above <:+ names → P store →
      store.makeDirectory (pathOf absolute above.reverse) = .ok later → P later) :
    P (store.makeDirectories absolute names).2 := by
  induction names with
  | nil => exact h
  | cons name above ih =>
    have hlonger := ih fun hsuffix => hmake (hsuffix.trans (List.suffix_cons name above))
    rw [makeDirectories]
    split
    · rename_i made hmade
      exact hmake List.suffix_rfl h hmade
    · split
      · split
        · rename_i error made hmade
          rwa [hmade] at hlonger
        · rename_i made hmade
          rw [hmade] at hlonger
          split
          · rename_i last hlast
            exact hmake List.suffix_rfl hlonger hlast
          · exact hlonger
      · exact h

/-- A store with some more directories, to each of which a beginning of a path leads. -/
structure Raises (absolute : Bool) (names : List String) (store later : Store) : Prop where
  nodes : ∀ place, later.nodes.get? place = store.nodes.get? place ∨
    store.nodes.get? place = none ∧
      ∃ above, above <:+ names ∧ later.lookup .target (pathOf absolute above.reverse) = .ok (place, .directory)
  rest : later = { store with nodes := later.nodes }

namespace Raises

theorem refl (store : Store) : Raises absolute names store store :=
  ⟨fun _ => .inl rfl, rfl⟩

theorem keeps (h : Raises absolute names store later) : Keeps store later := by
  refine ⟨fun {place} {node} hnode => ?_, by rw [h.rest]⟩
  rcases h.nodes place with hsame | ⟨hvacant, -⟩
  · rw [hsame, hnode]
  · rw [hvacant] at hnode
    cases hnode

theorem make {last : Store} {above : List String} (h : Raises absolute names store later)
    (hsuffix : above <:+ names) (hmake : later.makeDirectory (pathOf absolute above.reverse) = .ok last) :
    Raises absolute names store last := by
  obtain ⟨place, hvacancy, rfl⟩ := makeDirectory_eq_ok_iff.1 hmake
  have hkeeps := keeps_setNode (vacancy_node hvacancy) .directory
  refine ⟨fun other => ?_, by rw [h.rest]; rfl⟩
  by_cases hnew : other = place
  · subst hnew
    refine .inr ⟨?_, above, hsuffix, lookup_setNode_of_vacancy hvacancy nofun (fun _ => rfl) nofun⟩
    cases hnode : store.nodes.get? other with
    | none => rfl
    | some node =>
      have hvacant := vacancy_node hvacancy
      rw [h.keeps.nodes hnode] at hvacant
      cases hvacant
  · have hother : (later.setNode place .directory).nodes.get? other = later.nodes.get? other :=
      later.nodes.get?_insert_of_ne _ hnew
    rw [hother]
    refine (h.nodes other).imp_right fun ⟨hvacant, upper, hupper, hlookup⟩ => ⟨hvacant, upper, hupper, ?_⟩
    exact hkeeps.leads.lookup nofun (fun _ hfollows => hfollows) hlookup
      (hkeeps.nodes (lookup_node hlookup)) fun _ _ => rfl

end Raises

theorem raises_makeDirectories (store : Store) (absolute : Bool) (names : List String) :
    Raises absolute names store (store.makeDirectories absolute names).2 :=
  makeDirectories_induct (.refl store) fun hsuffix h hmake => h.make hsuffix hmake

/-- The names above the last one of a path, from the last one up. -/
def namesAbove (path : String) : List String := (Path.names path).reverse.tail

theorem makeParents_eq (store : Store) (path : String) :
    store.makeParents path = store.makeDirectories (Path.isAbsolute path) (namesAbove path) := by
  rw [makeParents, namesAbove]
  cases (Path.names path).reverse <;> rfl

theorem raises_makeParents (store : Store) (path : String) :
    Raises (Path.isAbsolute path) (namesAbove path) store (store.makeParents path).2 := by
  rw [makeParents_eq]
  exact raises_makeDirectories store _ _

theorem IsTree.makeParents (h : store.IsTree) (path : String) : (store.makeParents path).2.IsTree := by
  rw [makeParents_eq]
  refine makeDirectories_induct h fun _ htree hmake => ?_
  obtain ⟨place, hvacancy, rfl⟩ := makeDirectory_eq_ok_iff.1 hmake
  exact htree.setNode hvacancy

/-- What is found by following links is found as an entry too, be it as a link to it. -/
theorem walk_vacancy_of_target (hwalk : store.walk .target links here slash steps = .ok arrival)
    (hnode : arrival.node ≠ none) :
    ∃ found, store.walk .vacancy links here slash steps = .ok found ∧ found.node ≠ none := by
  have hplain : Approach.vacancy ≠ .file := by decide
  fun_induction walk store .target links here slash steps with
  | case1 links here slash =>
    cases hwalk
    exact ⟨_, by rw [walk], hnode⟩
  | case2 links here slash rest ih =>
    rw [walk, if_pos rfl]
    exact ih hwalk
  | case3 links here slash rest hup ih =>
    rw [walk, if_neg hup, if_pos rfl]
    exact ih hwalk
  | case6 =>
    cases hwalk
    exact absurd rfl hnode
  | case8 links here slash name rest hhere hup _ hsize place hthere hrest =>
    obtain rfl := List.isEmpty_iff.1 hrest
    exact ⟨_, walk_end ⟨hhere, hup, hsize⟩ hplain (by simp [place, hthere]), by simp [place, hthere]⟩
  | case9 links here slash name rest hhere hup _ hsize place hthere hrest ih =>
    rw [walk_directory ⟨hhere, hup, hsize⟩ (Bool.eq_false_iff.2 hrest) hthere]
    exact ih hwalk
  | case10 links here slash name rest hhere hup _ hsize place target hthere hstays =>
    simp [Approach.follows] at hstays
  | case12 here slash name rest hhere hup _ hsize place target hthere hgoes links ih =>
    by_cases hrest : rest = []
    · subst hrest
      exact ⟨_, walk_stays ⟨hhere, hup, hsize⟩ hplain hthere rfl, Option.some_ne_none _⟩
    · rw [walk_link ⟨hhere, hup, hsize⟩ hplain hthere (by simp [hrest])]
      exact ih hwalk
  | case13 links here slash name rest hhere hup _ hsize place node hleaf hother hthere hrest =>
    obtain rfl := List.isEmpty_iff.1 hrest
    exact ⟨_, walk_end ⟨hhere, hup, hsize⟩ hplain (by simpa [place, hthere] using hother),
      by simp [place, hthere]⟩
  | _ => cases hwalk

theorem isDirectory_iff :
    store.isDirectory path = true ↔ ∃ place, store.lookup .target path = .ok (place, .directory) := by
  rw [isDirectory, ← node_eq_ok_iff_lookup]
  cases hnode : store.node true path with
  | error error => simp
  | ok node => cases node <;> simp

theorem makeDirectory_of_isDirectory (h : store.isDirectory path = true) :
    store.makeDirectory path = .error (.os 17) := by
  obtain ⟨place, hlookup⟩ := isDirectory_iff.1 h
  obtain ⟨arrival, hfind, -, hnode, -⟩ := lookup_eq_ok_iff.1 hlookup
  obtain ⟨hcheck, hwalk⟩ := find_eq_ok_iff.1 hfind
  obtain ⟨found, hfound, hthere⟩ := walk_vacancy_of_target hwalk (by simp [hnode])
  rw [makeDirectory, vacancy, find_eq_ok_iff.2 ⟨hcheck, hfound⟩]
  cases hentry : found.node with
  | none => exact absurd hentry hthere
  | some node => simp [hentry]

theorem Leads.isDirectory (hleads : Leads store later) (h : store.isDirectory path = true) :
    later.isDirectory path = true := by
  obtain ⟨place, hlookup⟩ := isDirectory_iff.1 h
  refine isDirectory_iff.2 ⟨place, ?_⟩
  exact hleads.lookup nofun (fun _ hfollows => hfollows) hlookup
    (hleads.directory (lookup_node hlookup)) nofun

def HasParents (store : Store) (path : String) : Prop :=
  namesAbove path = [] ∨ store.isDirectory (pathOf (Path.isAbsolute path) (namesAbove path).reverse) = true

theorem HasParents.of_leads (h : store.HasParents path) (hleads : Leads store later) :
    later.HasParents path :=
  h.imp_right hleads.isDirectory

theorem makeParents_of_hasParents (h : store.HasParents path) : store.makeParents path = (.ok (), store) := by
  rw [makeParents_eq]
  cases hnames : namesAbove path with
  | nil => rw [makeDirectories]
  | cons name above =>
    have hdirectory := h.resolve_left (by simp [hnames])
    rw [hnames] at hdirectory
    rw [makeDirectories]
    simp only [makeDirectory_of_isDirectory hdirectory]
    rw [if_neg (by decide), if_pos hdirectory]

theorem isDirectory_of_makeDirectory (h : store.makeDirectory path = .ok later) :
    later.isDirectory path = true := by
  obtain ⟨place, hvacancy, rfl⟩ := makeDirectory_eq_ok_iff.1 h
  exact isDirectory_iff.2 ⟨place, lookup_setNode_of_vacancy hvacancy nofun (fun _ => rfl) nofun⟩

theorem isDirectory_of_makeDirectories (h : (store.makeDirectories absolute (name :: rest)).1 = .ok ()) :
    (store.makeDirectories absolute (name :: rest)).2.isDirectory
      (pathOf absolute (name :: rest).reverse) = true := by
  have hanswer {store : Store} {path : String} {error : IoError}
      (h : (if store.isDirectory path then .ok () else .error error : Except IoError Unit) = .ok ()) :
      store.isDirectory path = true := by
    by_cases hdirectory : store.isDirectory path = true
    · exact hdirectory
    · rw [if_neg hdirectory] at h
      cases h
  rw [makeDirectories] at h ⊢
  cases hmake : store.makeDirectory (pathOf absolute (name :: rest).reverse) with
  | ok later => exact isDirectory_of_makeDirectory hmake
  | error error =>
    simp only [hmake] at h ⊢
    by_cases hkind : error.kind = .notFound
    · simp only [if_pos hkind] at h ⊢
      rcases habove : store.makeDirectories absolute rest with ⟨_ | _, middle⟩
      · simp only [habove] at h
        cases h
      · simp only [habove] at h ⊢
        cases hagain : middle.makeDirectory (pathOf absolute (name :: rest).reverse) with
        | ok later => exact isDirectory_of_makeDirectory hagain
        | error error =>
          simp only [hagain] at h ⊢
          exact hanswer h
    · simp only [if_neg hkind] at h ⊢
      exact hanswer h

theorem hasParents_of_makeParents (h : (store.makeParents path).1 = .ok ()) :
    (store.makeParents path).2.HasParents path := by
  rw [makeParents_eq] at h ⊢
  cases hnames : namesAbove path with
  | nil => exact .inl hnames
  | cons name above =>
    right
    rw [hnames] at h ⊢
    exact isDirectory_of_makeDirectories h

end Courier.Store
