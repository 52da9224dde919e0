import Courier.Store.Basic

/-! # Walks in a store that grows

A store keeps another one if all that stood there still stands at its place. Paths that led somewhere lead
there still, and a path to a vacant place leads to what is put there.
-/

namespace Courier.Store

variable {store later : Store} {approach : Approach} {links : Nat} {here place : Place} {slash : Bool}
  {name path : String} {steps rest : List String} {arrival : Arrival} {node : Node}

/-- A walk shows what stands at the place where it ends. -/
theorem node_walk (h : store.walk approach links here slash steps = .ok arrival) :
    arrival.node = store.nodes.get? arrival.place := by
  fun_induction walk store approach links here slash steps with
  | case1 | case6 | case8 | case10 | case13 =>
    cases h
    first | rfl | exact Eq.symm ‹_›
  | case2 _ _ _ _ ih | case3 _ _ _ _ _ ih => exact ih h
  | case9 _ _ _ _ _ _ _ _ _ _ _ _ ih => exact ih h
  | case12 _ _ _ _ _ _ _ _ _ _ _ _ _ ih => exact ih h
  | _ => cases h

/-- Slashes that ask for a directory are not forgotten on the way. -/
theorem slash_walk (h : store.walk approach links here slash steps = .ok arrival) (hslash : slash = true) :
    arrival.slash = true := by
  fun_induction walk store approach links here slash steps with
  | case1 | case6 | case8 | case10 | case13 =>
    cases h
    exact hslash
  | case2 _ _ _ _ ih | case3 _ _ _ _ _ ih => exact ih h hslash
  | case9 _ _ _ _ _ _ _ _ _ _ _ _ ih => exact ih h hslash
  | case12 _ _ _ _ _ _ _ _ _ _ _ _ _ ih => exact ih h (by rw [hslash, Bool.true_or])
  | _ => cases h

structure IsEntry (name : String) : Prop where
  notHere : name ≠ "."
  notUp : name ≠ ".."
  size : ¬ name.utf8ByteSize > nameLimit

theorem walk_end (hname : IsEntry name) (hfile : approach ≠ .file)
    (hlink : ∀ target, store.nodes.get? (here ++ [name]) ≠ some (.link target)) :
    store.walk approach links here slash [name]
      = .ok ⟨here ++ [name], store.nodes.get? (here ++ [name]), true, slash⟩ := by
  rw [walk, if_neg hname.notHere, if_neg hname.notUp, if_neg (by simp [hfile]), if_neg hname.size]
  cases hnode : store.nodes.get? (here ++ [name]) with
  | none => simp [hnode]
  | some node =>
    cases node with
    | link target => exact absurd hnode (hlink target)
    | _ => simp [hnode]

theorem walk_last (hname : IsEntry name) (h : store.nodes.get? (here ++ [name]) = some node)
    (hlink : ∀ target, node ≠ .link target) :
    store.walk .target links here slash [name] = .ok ⟨here ++ [name], some node, true, slash⟩ := by
  have hfile : Approach.target ≠ .file := nofun
  rw [walk_end hname hfile (h ▸ fun target htarget => hlink target (Option.some.inj htarget)), h]

theorem walk_missing (hname : IsEntry name) (h : store.nodes.get? (here ++ [name]) = none) :
    store.walk approach links here false [name] = .ok ⟨here ++ [name], none, true, false⟩ := by
  rw [walk, if_neg hname.notHere, if_neg hname.notUp, if_neg (by simp), if_neg hname.size]
  simp [h]

theorem walk_directory (hname : IsEntry name) (hrest : rest.isEmpty = false)
    (h : store.nodes.get? (here ++ [name]) = some .directory) :
    store.walk approach links here slash (name :: rest)
      = store.walk approach links (here ++ [name]) slash rest := by
  rw [walk, if_neg hname.notHere, if_neg hname.notUp, if_neg (by simp [hrest]), if_neg hname.size]
  simp [h, hrest]

theorem walk_stays (hname : IsEntry name) (hfile : approach ≠ .file) {target : String}
    (h : store.nodes.get? (here ++ [name]) = some (.link target)) (hstays : approach.follows slash = false) :
    store.walk approach links here slash [name]
      = .ok ⟨here ++ [name], some (.link target), true, slash⟩ := by
  rw [walk, if_neg hname.notHere, if_neg hname.notUp, if_neg (by simp [hfile]), if_neg hname.size]
  simp [h, hstays]

theorem walk_link (hname : IsEntry name) (hfile : approach ≠ .file) {target : String}
    (h : store.nodes.get? (here ++ [name]) = some (.link target))
    (hfollows : (rest.isEmpty && !approach.follows slash) = false) :
    store.walk approach (links + 1) here slash (name :: rest)
      = store.walk approach links (if Path.isAbsolute target then [] else here)
          (slash || (rest.isEmpty && Path.endsWithSlash target)) (Path.steps target ++ rest) := by
  rw [walk, if_neg hname.notHere, if_neg hname.notUp, if_neg (by simp [hfile]), if_neg hname.size]
  simp only [h, hfollows, Bool.false_eq_true, if_false]

/-- Whether everything that stands in a store stands at the same place in another one. -/
structure Keeps (store later : Store) : Prop where
  nodes : ∀ {place : Place} {node : Node}, store.nodes.get? place = some node →
    later.nodes.get? place = some node
  workDir : later.workDir = store.workDir

theorem Keeps.refl (store : Store) : Keeps store store := ⟨id, rfl⟩

theorem Keeps.trans {last : Store} (hkeeps : Keeps store later) (hlater : Keeps later last) :
    Keeps store last :=
  ⟨fun h => hlater.nodes (hkeeps.nodes h), hlater.workDir.trans hkeeps.workDir⟩

theorem keeps_setNode (h : store.nodes.get? place = none) (node : Node) :
    Keeps store (store.setNode place node) := by
  refine ⟨fun {other} {old} hold => ?_, rfl⟩
  have hne : other ≠ place := by
    rintro rfl
    rw [hold] at h
    cases h
  exact (store.nodes.get?_insert_of_ne node hne).trans hold

/-- Whether every directory and link of a store stands at the same place in another one. -/
structure Leads (store later : Store) : Prop where
  directory : ∀ {place : Place}, store.nodes.get? place = some .directory →
    later.nodes.get? place = some .directory
  link : ∀ {place : Place} {target : String}, store.nodes.get? place = some (.link target) →
    later.nodes.get? place = some (.link target)
  workDir : later.workDir = store.workDir

theorem Keeps.leads (h : Keeps store later) : Leads store later := ⟨h.nodes, h.nodes, h.workDir⟩

/-- A walk ends where another one did before that followed no more links. If a link stands there, then the
walks are alike and it stood there before. -/
theorem Leads.walk {approach' : Approach} (hleads : Leads store later) (hfile : approach' ≠ .file)
    (hfollows : ∀ slash, (slash = true → arrival.slash = true) → approach.follows slash = true →
      approach'.follows slash = true)
    (h : store.walk approach links here slash steps = .ok arrival)
    (hlink : ∀ target, later.nodes.get? arrival.place = some (.link target) →
      approach' = approach ∧ arrival.node = some (.link target)) :
    later.walk approach' links here slash steps
      = .ok { arrival with node := later.nodes.get? arrival.place } := by
  -- the cases are those of the walk before; where it failed there is nothing to show
  fun_induction Store.walk store approach links here slash steps with
  | case1 links here slash =>
    cases h
    rw [Store.walk]
  | case2 links here slash rest ih =>
    rw [Store.walk, if_pos rfl]
    exact ih h
  | case3 links here slash rest hup ih =>
    rw [Store.walk, if_neg hup, if_pos rfl]
    exact ih h
  | case6 links here slash name rest hhere hup _ hsize place hvacant hrest =>
    cases h
    obtain rfl := List.isEmpty_iff.1 hrest
    exact walk_end ⟨hhere, hup, hsize⟩ hfile fun target htarget => nomatch (hlink target htarget).2
  | case8 links here slash name rest hhere hup _ hsize place hnode hrest =>
    cases h
    obtain rfl := List.isEmpty_iff.1 hrest
    exact walk_end ⟨hhere, hup, hsize⟩ hfile fun target htarget => nomatch (hlink target htarget).2
  | case9 links here slash name rest hhere hup _ hsize place hnode hrest ih =>
    rw [walk_directory ⟨hhere, hup, hsize⟩ (Bool.eq_false_iff.2 hrest) (hleads.directory hnode)]
    exact ih h
  | case10 links here slash name rest hhere hup _ hsize place target hnode hstays =>
    cases h
    have hthere : later.nodes.get? place = some (.link target) := hleads.link hnode
    obtain ⟨rfl, -⟩ := hlink target hthere
    obtain ⟨hrest, hstays⟩ := Bool.and_eq_true_iff.1 hstays
    obtain rfl := List.isEmpty_iff.1 hrest
    rw [walk_stays ⟨hhere, hup, hsize⟩ hfile hthere (by simpa using hstays), hthere]
  | case12 here slash name rest hhere hup _ hsize place target hnode hgoes links ih =>
    have hgoes' : (rest.isEmpty && !approach'.follows slash) = false := by
      cases hrest : rest.isEmpty with
      | false => rfl
      | true =>
        have hfollowed : approach.follows slash = true := by simpa [hrest] using hgoes
        simp [hfollows slash (fun hslash => slash_walk h (by rw [hslash, Bool.true_or])) hfollowed]
    rw [walk_link ⟨hhere, hup, hsize⟩ hfile (hleads.link hnode) hgoes']
    exact ih h
  | case13 links here slash name rest hhere hup _ hsize place node _ hother hnode hrest =>
    cases h
    obtain rfl := List.isEmpty_iff.1 hrest
    exact walk_end ⟨hhere, hup, hsize⟩ hfile fun target htarget =>
      hother target (Option.some.inj (hlink target htarget).2)
  | _ => cases h

theorem find_eq_ok_iff :
    store.find approach path = .ok arrival ↔ checkPath path = .ok () ∧
      store.walk approach linkLimit (if Path.isAbsolute path then [] else store.workDir)
        (Path.endsWithSlash path) (Path.steps path) = .ok arrival := by
  rw [find]
  cases checkPath path with
  | error error => exact ⟨nofun, fun h => nomatch h.1⟩
  | ok _ => exact ⟨fun h => ⟨rfl, h⟩, fun h => h.2⟩

theorem node_find (h : store.find approach path = .ok arrival) :
    arrival.node = store.nodes.get? arrival.place :=
  node_walk (find_eq_ok_iff.1 h).2

theorem Leads.find {approach' : Approach} (hleads : Leads store later) (hfile : approach' ≠ .file)
    (hfollows : ∀ slash, (slash = true → arrival.slash = true) → approach.follows slash = true →
      approach'.follows slash = true)
    (h : store.find approach path = .ok arrival)
    (hlink : ∀ target, later.nodes.get? arrival.place = some (.link target) →
      approach' = approach ∧ arrival.node = some (.link target)) :
    later.find approach' path = .ok { arrival with node := later.nodes.get? arrival.place } := by
  obtain ⟨hcheck, hwalk⟩ := find_eq_ok_iff.1 h
  refine find_eq_ok_iff.2 ⟨hcheck, ?_⟩
  rw [hleads.workDir]
  exact hleads.walk hfile hfollows hwalk hlink

theorem lookup_eq_ok_iff :
    store.lookup approach path = .ok (place, node) ↔ ∃ arrival, store.find approach path = .ok arrival ∧
      arrival.place = place ∧ arrival.node = some node ∧ (arrival.slash = true → node = .directory) := by
  rw [lookup]
  cases hfind : store.find approach path with
  | error error => exact ⟨nofun, fun ⟨_, h, _⟩ => nomatch h⟩
  | ok arrival =>
    simp only [Except.ok.injEq, exists_eq_left']
    cases hnode : arrival.node with
    | none => exact ⟨nofun, fun h => nomatch h.2.1⟩
    | some found =>
      dsimp only
      by_cases hrefused : (arrival.slash && found ≠ .directory) = true
      · rw [if_pos hrefused]
        refine ⟨nofun, fun ⟨_, hfound, hslash⟩ => ?_⟩
        simp only [Bool.and_eq_true, decide_eq_true_eq] at hrefused
        exact absurd (Option.some.inj hfound ▸ hslash hrefused.1) hrefused.2
      · rw [if_neg hrefused]
        simp only [Bool.and_eq_true, decide_eq_true_eq, not_and, ne_eq,
          Decidable.not_not] at hrefused
        refine ⟨fun h => ?_, fun ⟨hplace, hfound, _⟩ => ?_⟩
        · obtain ⟨rfl, rfl⟩ := Prod.mk.inj (Except.ok.inj h)
          exact ⟨rfl, rfl, hrefused⟩
        · rw [hplace, Option.some.inj hfound]

theorem lookup_node (h : store.lookup approach path = .ok (place, node)) :
    store.nodes.get? place = some node := by
  obtain ⟨arrival, hfind, rfl, hnode, -⟩ := lookup_eq_ok_iff.1 h
  rw [← node_find hfind, hnode]

theorem node_eq_ok_iff_lookup :
    store.node true path = .ok node ↔ ∃ place, store.lookup .target path = .ok (place, node) := by
  rw [Store.node, if_pos rfl]
  cases store.lookup .target path with
  | error error => exact ⟨nofun, fun ⟨_, h⟩ => nomatch h⟩
  | ok found =>
    obtain ⟨place, found⟩ := found
    simp [Except.map]

theorem node_eq_ok_iff :
    store.node true path = .ok node ↔ ∃ arrival, store.find .target path = .ok arrival ∧
      arrival.node = some node ∧ (arrival.slash = true → node = .directory) := by
  simp only [node_eq_ok_iff_lookup, lookup_eq_ok_iff]
  exact ⟨fun ⟨_, arrival, hfind, _, h⟩ => ⟨arrival, hfind, h⟩,
    fun ⟨arrival, hfind, h⟩ => ⟨_, arrival, hfind, rfl, h⟩⟩

/-- A path leads where it led before, if the same thing stands there. -/
theorem Leads.lookup {approach' : Approach} (hleads : Leads store later) (hfile : approach' ≠ .file)
    (hfollows : ∀ slash, approach.follows slash = true → approach'.follows slash = true)
    (h : store.lookup approach path = .ok (place, node)) (hnode : later.nodes.get? place = some node)
    (hlink : ∀ target, node = .link target → approach' = approach) :
    later.lookup approach' path = .ok (place, node) := by
  obtain ⟨arrival, hfind, rfl, hthere, hslash⟩ := lookup_eq_ok_iff.1 h
  refine lookup_eq_ok_iff.2 ⟨_, hleads.find hfile (fun slash _ => hfollows slash) hfind ?_, rfl, hnode, hslash⟩
  intro target htarget
  rw [hnode] at htarget
  obtain rfl : node = .link target := Option.some.inj htarget
  exact ⟨hlink target rfl, hthere⟩

theorem Keeps.lookup_entry (hkeeps : Keeps store later) (h : store.lookup .entry path = .ok (place, node)) :
    later.lookup .entry path = .ok (place, node) :=
  hkeeps.leads.lookup nofun (fun _ hfollows => hfollows) h (hkeeps.nodes (lookup_node h)) fun _ _ => rfl

theorem Keeps.node_target (hkeeps : Keeps store later) (h : store.node true path = .ok node) :
    later.node true path = .ok node := by
  obtain ⟨place, hlookup⟩ := node_eq_ok_iff_lookup.1 h
  refine node_eq_ok_iff_lookup.2 ⟨place, ?_⟩
  exact hkeeps.leads.lookup nofun (fun _ hfollows => hfollows) hlookup
    (hkeeps.nodes (lookup_node hlookup)) fun _ _ => rfl

/-- A path that leads to an entry other than a link leads there also if links are followed. -/
theorem lookup_target (h : store.lookup .entry path = .ok (place, node))
    (hlink : ∀ target, node ≠ .link target) : store.lookup .target path = .ok (place, node) :=
  (Keeps.refl store).leads.lookup nofun (fun _ _ => rfl) h (lookup_node h) fun target htarget =>
    absurd htarget (hlink target)

theorem vacancy_eq_ok_iff {forDirectory : Bool} :
    store.vacancy forDirectory path = .ok place ↔ ∃ arrival, store.find .vacancy path = .ok arrival ∧
      arrival.place = place ∧ arrival.isNamed = true ∧ arrival.node = none ∧
      (arrival.slash = true → forDirectory = true) := by
  rw [vacancy]
  cases hfind : store.find .vacancy path with
  | error error => exact ⟨nofun, fun ⟨_, h, _⟩ => nomatch h⟩
  | ok arrival =>
    simp only [Except.ok.injEq, exists_eq_left']
    cases arrival.isNamed <;> cases hnode : arrival.node <;> cases arrival.slash <;>
      cases forDirectory <;> simp

theorem vacancy_node {forDirectory : Bool} (h : store.vacancy forDirectory path = .ok place) :
    store.nodes.get? place = none := by
  obtain ⟨arrival, hfind, rfl, -, hnode, -⟩ := vacancy_eq_ok_iff.1 h
  rw [← node_find hfind, hnode]

theorem find_of_vacancy {forDirectory : Bool} (h : store.vacancy forDirectory path = .ok place) :
    ∃ arrival, store.find .entry path = .ok arrival ∧ arrival.node = none ∧
      (arrival.slash = true → forDirectory = true) := by
  have hvacant := vacancy_node h
  obtain ⟨arrival, hfind, rfl, -, -, hslash⟩ := vacancy_eq_ok_iff.1 h
  refine ⟨{ arrival with node := none }, ?_, rfl, hslash⟩
  rw [← hvacant]
  refine (Keeps.refl store).leads.find nofun ?_ hfind ?_
  · intro slash _ hfollows
    cases hfollows
  · rw [hvacant]
    nofun

theorem lookup_of_vacancy {forDirectory : Bool} (h : store.vacancy forDirectory path = .ok place) :
    store.lookup .entry path = .error (.os 2) := by
  obtain ⟨arrival, hfind, hnode, -⟩ := find_of_vacancy h
  rw [lookup, hfind]
  simp [hnode]

/-- What is put at a vacant place is found by the path that showed the place. -/
theorem lookup_setNode_of_vacancy {forDirectory : Bool} (h : store.vacancy forDirectory path = .ok place)
    (hlink : ∀ target, node ≠ .link target) (hdirectory : forDirectory = true → node = .directory)
    (hfile : approach ≠ .file) : (store.setNode place node).lookup approach path = .ok (place, node) := by
  have hvacant := vacancy_node h
  obtain ⟨arrival, hfind, rfl, -, -, hslash⟩ := vacancy_eq_ok_iff.1 h
  have hnode : (store.setNode arrival.place node).nodes.get? arrival.place = some node :=
    store.nodes.get?_insert_self _ _
  refine lookup_eq_ok_iff.2 ⟨_, (keeps_setNode hvacant node).leads.find hfile ?_ hfind ?_, rfl, hnode,
    fun harrival => hdirectory (hslash harrival)⟩
  · intro slash _ hfollows
    cases hfollows
  · intro target htarget
    rw [hnode] at htarget
    exact absurd (Option.some.inj htarget) (hlink target)

theorem lookup_setNode_socket (h : store.vacancy false path = .ok place) (id : Nat)
    (hfile : approach ≠ .file) :
    (store.setNode place (.socket id)).lookup approach path = .ok (place, .socket id) :=
  lookup_setNode_of_vacancy h nofun nofun hfile

theorem node_setNode_of_vacancy (h : store.vacancy false path = .ok place)
    (hlink : ∀ target, node ≠ .link target) : (store.setNode place node).node true path = .ok node :=
  node_eq_ok_iff_lookup.2 ⟨place, lookup_setNode_of_vacancy h hlink nofun nofun⟩

/-- Opening a path for appending finds what is there, or makes an empty file at a vacant place. -/
theorem openAppend_cases {target : Target} (h : store.openAppend path = .ok (later, target)) :
    later = store ∨ ∃ place, store.nodes.get? place = none ∧ target = .file store.nextId ∧
      later = { store.setNode place (.file store.nextId) with
        contents := store.contents.insert store.nextId []
        nextId := store.nextId + 1 } := by
  rw [openAppend] at h
  split at h
  · cases h
  · rename_i arrival hfind
    split at h
    · rename_i hnode
      obtain ⟨rfl, rfl⟩ := Prod.mk.inj (Except.ok.inj h)
      exact .inr ⟨arrival.place, (node_find hfind).symm.trans hnode, rfl, rfl⟩
    all_goals cases h
    all_goals exact .inl rfl

end Courier.Store
