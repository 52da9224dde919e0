import Courier.Proofs.Store.Walk

/-! # Paths that go on from a directory

A path with a slash and a name after it takes the steps of the path and then one step more
(`steps_join`). Where the path leads to a directory, the longer one stays in it: it leads to the place of
that name there, or to nothing (`place_of_find`).
-/

namespace Courier

namespace Path

theorem steps_join (left right : String) : steps (left ++ "/" ++ right) = steps left ++ steps right := by
  have hchars : (left ++ "/" ++ right).toList = left.toList ++ '/' :: right.toList := by simp
  simp only [steps, Text.cut, hchars, Text.pieces_append_separator, List.map_append, List.filter_append]

theorem steps_of_notMem {name : String} (hslash : '/' ∉ name.toList) (hname : name ≠ "") :
    steps name = [name] := by
  simp [steps, Text.cut, Text.pieces_of_notMem hslash, hname]

theorem isAbsolute_of_notMem {path : String} (h : '/' ∉ path.toList) : isAbsolute path = false := by
  rw [isAbsolute, beq_eq_false_iff_ne]
  exact fun hhead => h (List.mem_of_head? hhead)

theorem exists_of_endsWithSlash {path : String} (h : endsWithSlash path = true) :
    ∃ above, path = above ++ "/" := by
  rw [endsWithSlash, beq_iff_eq, List.getLast?_eq_some_iff] at h
  obtain ⟨above, habove⟩ := h
  refine ⟨String.ofList above, String.toList_injective ?_⟩
  simpa using habove

end Path

namespace Store

variable {store : Store} {approach : Approach} {links : Nat} {here place : Place} {slash : Bool}
  {directory path entry : String} {steps : List String} {arrival : Arrival}

/-- Whether paths that begin with a text begin at a place: in the directory that the text leads to, or in
the working directory if there is no text. -/
def BeginsAt (store : Store) (directory : String) (place : Place) : Prop :=
  directory = "" ∧ place = store.workDir ∨ store.lookup .target directory = .ok (place, .directory)

/-- A walk that goes on from a directory comes by the place of the directory, with some links left. -/
theorem walk_concat (hfile : approach ≠ .file)
    (h : store.walk .target links here slash steps = .ok arrival)
    (hdirectory : arrival.node = some .directory) (entry : String) :
    ∃ left, store.walk approach links here false (steps ++ [entry])
      = store.walk approach left arrival.place false [entry] := by
  have hmore (rest : List String) : (rest ++ [entry]).isEmpty = false := by simp
  -- the cases are those of the walk to the directory; it does not end at anything else
  fun_induction Store.walk store .target links here slash steps with
  | case1 links here slash =>
    cases h
    exact ⟨links, rfl⟩
  | case2 links here slash rest ih =>
    rw [List.cons_append, Store.walk, if_pos rfl]
    exact ih h
  | case3 links here slash rest hup ih =>
    rw [List.cons_append, Store.walk, if_neg hup, if_pos rfl]
    exact ih h
  | case6 =>
    cases h
    cases hdirectory
  | case8 links here slash name rest hhere hup _ hsize place hnode hrest =>
    cases h
    obtain rfl := List.isEmpty_iff.1 hrest
    exact ⟨links, walk_directory ⟨hhere, hup, hsize⟩ rfl hnode⟩
  | case9 links here slash name rest hhere hup _ hsize place hnode hrest ih =>
    rw [List.cons_append, walk_directory ⟨hhere, hup, hsize⟩ (hmore rest) hnode]
    exact ih h
  | case10 links here slash name rest hhere hup _ hsize place target hnode hstays =>
    simp [Approach.follows] at hstays
  | case12 here slash name rest hhere hup _ hsize place target hnode hgoes links ih =>
    rw [List.cons_append, walk_link ⟨hhere, hup, hsize⟩ hfile hnode (by simp [hmore])]
    rw [hmore, Bool.false_and, Bool.or_false, ← List.append_assoc]
    exact ih h
  | case13 links here slash name rest hhere hup _ hsize place node hleaf hother hnode hrest =>
    cases h
    exact absurd (Option.some.inj hdirectory) hleaf
  | _ => cases h

/-- The last step of a walk that does not follow a link ends at the entry itself. -/
theorem place_of_last (hhere : entry ≠ ".") (hup : entry ≠ "..") (hstays : approach.follows false = false)
    (h : store.walk approach links here false [entry] = .ok arrival) : arrival.place = here ++ [entry] := by
  rw [walk, if_neg hhere, if_neg hup] at h
  simp only [List.isEmpty_nil, Bool.true_and, Bool.false_and, hstays, Bool.not_false, if_true] at h
  repeat' split at h
  all_goals cases h
  all_goals rfl

/-- A path that goes on from a directory by one name does not lead out of it. -/
theorem place_of_find (hbegins : store.BeginsAt directory place)
    (hsteps : Path.steps path = Path.steps directory ++ [entry])
    (hstart : Path.isAbsolute path = Path.isAbsolute directory) (hslash : Path.endsWithSlash path = false)
    (hhere : entry ≠ ".") (hup : entry ≠ "..") (hstays : approach.follows false = false)
    (h : store.find approach path = .ok arrival) : arrival.place = place ++ [entry] := by
  obtain ⟨-, hwalk⟩ := find_eq_ok_iff.1 h
  rw [hsteps, hstart, hslash] at hwalk
  rcases hbegins with ⟨rfl, rfl⟩ | hlookup
  · exact place_of_last hhere hup hstays hwalk
  · obtain ⟨found, hfind, rfl, hdirectory, -⟩ := lookup_eq_ok_iff.1 hlookup
    have hfile : approach ≠ .file := by
      rintro rfl
      cases hstays
    obtain ⟨left, hlast⟩ := walk_concat hfile (find_eq_ok_iff.1 hfind).2 hdirectory entry
    rw [hlast] at hwalk
    exact place_of_last hhere hup hstays hwalk

end Store

end Courier
