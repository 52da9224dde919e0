import Courier.Proofs.Queue.Passing
import Courier.Proofs.Store.Parents

/-! # What binding and dropping a receiver change

A path is bound in three steps: missing directories are made, a socket without a receiver is cleared away,
and a new socket is put there. Where the store is a tree only the first step can be left behind by a
failure, because a place that was cleared is free.
-/

namespace Courier

namespace Host

/-- Whether the store is a tree and the numbers of sockets still to be made are not in use. -/
structure IsSound (host : Host) : Prop where
  tree : host.store.IsTree
  endpoint : ∀ {id : Nat}, host.nextEndpoint ≤ id → host.endpoints.get? id = none
  entry : ∀ {place : Place} {id : Nat}, host.store.nodes.get? place = some (.socket id) →
    id < host.nextEndpoint

variable {host later : Host} {path : String} {socket : Nat} {queued : List Bytes}

theorem Serves.isLive (h : host.Serves socket queued) : host.isLive socket = true := by
  obtain ⟨access, hendpoint⟩ := h
  simp [Host.isLive, hendpoint]

theorem IsSound.lt_nextEndpoint (hsound : host.IsSound) (h : host.isLive socket = true) :
    socket < host.nextEndpoint := by
  rcases Nat.lt_or_ge socket host.nextEndpoint with hless | hbeyond
  · exact hless
  · simp [Host.isLive, hsound.endpoint hbeyond] at h

theorem probe_eq_ok_false_iff : host.probe socket = .ok false ↔ host.isLive socket = false := by
  rw [probe, Host.isLive]
  cases host.endpoints.get? socket with
  | none => simp
  | some endpoint =>
    cases hlive : endpoint.isLive <;> cases hstream : endpoint.isStream <;> simp [hlive, hstream]

theorem makeSocket_eq_ok_iff {endpoint : Endpoint} :
    host.makeSocket path endpoint = .ok (socket, later) ↔ checkSocketPath path = .ok () ∧
      ∃ place, host.store.vacancy false path = .ok place ∧ socket = host.nextEndpoint ∧
        later = { host.setEndpoint host.nextEndpoint endpoint with
          store := host.store.setNode place (.socket host.nextEndpoint)
          nextEndpoint := host.nextEndpoint + 1 } := by
  rw [makeSocket]
  cases checkSocketPath path with
  | error error => simp
  | ok _ =>
    cases host.store.vacancy false path with
    | error error => simp
    | ok place => simp [eq_comm]

theorem isSound_isolated : isolated.IsSound := by
  refine ⟨Store.isTree_initial, fun _ => rfl, fun {place} {id} hentry => ?_⟩
  simp only [isolated, Store.initial, Table.ofList, Table.get?_insert, List.foldl_cons,
    List.foldl_nil] at hentry
  grind [Table.get?_empty]

def raised (host : Host) (path : String) : Host := { host with store := (host.store.makeParents path).2 }

theorem IsSound.raised (h : host.IsSound) (path : String) : (host.raised path).IsSound := by
  refine ⟨h.tree.makeParents path, h.endpoint, fun {place} {id} hentry => ?_⟩
  rcases (host.store.raises_makeParents path).nodes place with hsame | ⟨-, above, -, hlookup⟩
  · exact h.entry (hsame ▸ hentry)
  · have hdirectory := Store.lookup_node hlookup
    rw [show (host.raised path).store = (host.store.makeParents path).2 from rfl, hdirectory] at hentry
    cases hentry

/-- Whether a socket can be put at a path: the directories above it are there or can be made, and nothing or
a socket without a receiver stands there. -/
def IsFree (host : Host) (path : String) : Prop :=
  (host.store.makeParents path).1 = .ok () ∧
    ((∃ place, (host.raised path).store.vacancy false path = .ok place) ∨
      ∃ place id, (host.raised path).store.lookup .entry path = .ok (place, .socket id) ∧
        host.isLive id = false)

theorem isFree_of_vacancy {place : Place} (hparents : host.store.HasParents path)
    (hvacancy : host.store.vacancy false path = .ok place) : host.IsFree path := by
  have hsame : (host.raised path).store = host.store := by
    rw [raised, Store.makeParents_of_hasParents hparents]
  refine ⟨by rw [Store.makeParents_of_hasParents hparents], .inl ⟨place, ?_⟩⟩
  rw [hsame, hvacancy]

/-- A path that leads anywhere has no character that the path of a socket cannot have. -/
theorem checkSocketPath_of_find {approach : Store.Approach} {arrival : Store.Arrival}
    (h : host.store.find approach path = .ok arrival) (hsize : path.utf8ByteSize < socketPathLimit) :
    checkSocketPath path = .ok () := by
  have hcheck := (Store.find_eq_ok_iff.1 h).1
  rw [Store.checkPath] at hcheck
  rw [checkSocketPath]
  split at hcheck
  · cases hcheck
  · rename_i hplain
    rw [if_neg hplain, if_neg (Nat.not_le_of_lt hsize)]

end Host

namespace Queue.Receiver

variable {host cleared later : Host} {receiver : Receiver} {name path : String} {access : Access}
  {capacity : Nat} {place : Place}

theorem clearPath_cases (h : clearPath host path = .ok cleared) :
    (cleared = host ∧ ∃ error, host.store.lookup .entry path = .error error) ∨
      ∃ place id, host.store.lookup .entry path = .ok (place, .socket id) ∧ host.isLive id = false ∧
        cleared = { host with store := host.store.removeTree place } := by
  rw [clearPath] at h
  split at h
  · rename_i place id hlookup
    split at h
    · cases h
    · cases h
    · rename_i hprobe
      exact .inr ⟨place, id, hlookup, Host.probe_eq_ok_false_iff.1 hprobe, (Except.ok.inj h).symm⟩
  · cases h
  · rename_i error hlookup
    exact .inl ⟨(Except.ok.inj h).symm, error, hlookup⟩

/-- A host on which a socket was put at a path where nobody received. -/
structure Settled (host later : Host) (path : String) (access : Access) (place : Place) : Prop where
  /-- Nothing or a socket without a receiver stood at the path. -/
  free : ∀ found node, host.store.lookup .entry path = .ok (found, node) →
    ∃ id, node = .socket id ∧ host.isLive id = false
  vacated : host.store.nodes.get? place = none ∨
    ∃ id, host.store.nodes.get? place = some (.socket id) ∧ host.isLive id = false
  later_eq : later = { host.setEndpoint host.nextEndpoint { access } with
    store := host.store.setNode place (.socket host.nextEndpoint)
    nextEndpoint := host.nextEndpoint + 1 }
  lookup : ∀ approach, approach ≠ .file →
    later.store.lookup approach path = .ok (place, .socket host.nextEndpoint)
  tree : later.store.IsTree

/-- A place that was cleared is free, so that a failure to bind a path changes nothing. -/
theorem bindPath_cases (htree : host.store.IsTree) (hsize : path.utf8ByteSize < Host.socketPathLimit)
    (access : Access) :
    (∃ error, bindPath host path access = (.error error, host)) ∨
      ∃ place later, bindPath host path access = (.ok host.nextEndpoint, later) ∧
        Settled host later path access place := by
  rw [bindPath]
  split
  · rename_i error hclear
    exact .inl ⟨error, rfl⟩
  · rename_i cleared hclear
    rcases clearPath_cases hclear with ⟨rfl, error, hnothing⟩ | ⟨place, id, hlookup, hdead, rfl⟩
    · split
      · rename_i error hmake
        exact .inl ⟨error, rfl⟩
      · rename_i socket later hmake
        obtain ⟨-, place, hvacancy, rfl, rfl⟩ := Host.makeSocket_eq_ok_iff.1 hmake
        refine .inr ⟨place, _, rfl, ?_, .inl (Store.vacancy_node hvacancy), rfl, ?_, htree.setNode hvacancy⟩
        · intro found node hfound
          rw [hnothing] at hfound
          cases hfound
        · exact fun approach hfile => Store.lookup_setNode_socket hvacancy _ hfile
    · have hsocket := Store.lookup_node hlookup
      have hvacancy := htree.vacancy_removeTree hlookup
      have hremoved := htree.removeTree hsocket (Node.socket_ne_directory id)
      obtain ⟨arrival, hfind, -⟩ := Store.lookup_eq_ok_iff.1 hlookup
      have hstore : (host.store.removeTree place).setNode place (.socket host.nextEndpoint)
          = host.store.setNode place (.socket host.nextEndpoint) := by
        rw [htree.removeTree_eq hsocket (Node.socket_ne_directory id), Store.setNode, Store.setNode,
          Table.insert_erase]
      rw [Host.makeSocket, Host.checkSocketPath_of_find hfind hsize]
      simp only [hvacancy]
      refine .inr ⟨place, _, rfl, ?_, .inr ⟨id, hsocket, hdead⟩, ?_, ?_, hremoved.setNode hvacancy⟩
      · intro found node hfound
        rw [hlookup] at hfound
        obtain ⟨rfl, rfl⟩ := Prod.mk.inj (Except.ok.inj hfound)
        exact ⟨id, rfl, hdead⟩
      · rw [hstore]
        rfl
      · exact fun approach hfile => Store.lookup_setNode_socket hvacancy _ hfile

theorem bind_cases (htree : host.store.IsTree) {outcome : Except Transport.Error Receiver}
    (h : bind host name capacity access = (outcome, later)) :
    (∃ error, outcome = .error error ∧ (later = host ∨
        ∃ path, resolveName host.queueDirectory name = .ok path ∧ later = host.raised path)) ∨
      ∃ path place, outcome = .ok ⟨name, path, capacity, host.nextEndpoint⟩ ∧
        resolveName host.queueDirectory name = .ok path ∧ path.utf8ByteSize < Host.socketPathLimit ∧
        Settled (host.raised path) later path access place := by
  rw [bind] at h
  split at h
  · rename_i error hname
    obtain ⟨rfl, rfl⟩ := Prod.mk.inj h
    exact .inl ⟨error, rfl, .inl rfl⟩
  · rename_i path hname
    split at h
    · obtain ⟨rfl, rfl⟩ := Prod.mk.inj h
      exact .inl ⟨_, rfl, .inl rfl⟩
    · rename_i hsize
      dsimp only at h
      split at h
      · obtain ⟨rfl, rfl⟩ := Prod.mk.inj h
        exact .inl ⟨_, rfl, .inr ⟨path, hname, rfl⟩⟩
      · have hraised : { host with store := (host.store.makeParents path).2 } = host.raised path := rfl
        have htree' : (host.raised path).store.IsTree := htree.makeParents path
        rw [hraised] at h
        rcases bindPath_cases htree' (Nat.lt_of_not_le hsize) access with
          ⟨error, hbind⟩ | ⟨place, bound, hbind, hsettled⟩
        · rw [hbind] at h
          obtain ⟨rfl, rfl⟩ := Prod.mk.inj h
          exact .inl ⟨_, rfl, .inr ⟨path, hname, rfl⟩⟩
        · rw [hbind] at h
          obtain ⟨rfl, rfl⟩ := Prod.mk.inj h
          exact .inr ⟨path, place, rfl, hname, Nat.lt_of_not_le hsize, hsettled⟩

/-- A path is bound exactly if nothing or a socket without a receiver stands there. -/
theorem bindPath_ok_iff (htree : host.store.IsTree) (hsize : path.utf8ByteSize < Host.socketPathLimit)
    (access : Access) :
    (∃ socket later, bindPath host path access = (.ok socket, later)) ↔
      (∃ place, host.store.vacancy false path = .ok place) ∨
        ∃ place id, host.store.lookup .entry path = .ok (place, .socket id) ∧ host.isLive id = false := by
  constructor
  · rintro ⟨socket, later, hbind⟩
    rw [bindPath] at hbind
    split at hbind
    · cases hbind
    · rename_i cleared hclear
      rcases clearPath_cases hclear with ⟨rfl, -⟩ | ⟨place, id, hlookup, hdead, -⟩
      · split at hbind
        · cases hbind
        · rename_i made hmake
          obtain ⟨-, place, hvacancy, -⟩ := Host.makeSocket_eq_ok_iff.1 hmake
          exact .inl ⟨place, hvacancy⟩
      · exact .inr ⟨place, id, hlookup, hdead⟩
  · rintro (⟨place, hvacancy⟩ | ⟨place, id, hlookup, hdead⟩)
    · obtain ⟨arrival, hfind, -⟩ := Store.vacancy_eq_ok_iff.1 hvacancy
      have hclear : clearPath host path = .ok host := by
        rw [clearPath, Store.lookup_of_vacancy hvacancy]
      rw [bindPath, hclear]
      simp only [Host.makeSocket, Host.checkSocketPath_of_find hfind hsize, hvacancy]
      exact ⟨_, _, rfl⟩
    · obtain ⟨arrival, hfind, -⟩ := Store.lookup_eq_ok_iff.1 hlookup
      have hclear : clearPath host path = .ok { host with store := host.store.removeTree place } := by
        simp only [clearPath, hlookup, Host.probe_eq_ok_false_iff.2 hdead]
      rw [bindPath, hclear]
      simp only [Host.makeSocket, Host.checkSocketPath_of_find hfind hsize, htree.vacancy_removeTree hlookup]
      exact ⟨_, _, rfl⟩

/-- A queue is bound exactly if its name stands for a path that is short enough and free. -/
theorem bind_ok_iff (htree : host.store.IsTree) (name : String) (capacity : Nat) (access : Access) :
    (∃ receiver later, bind host name capacity access = (.ok receiver, later)) ↔
      ∃ path, resolveName host.queueDirectory name = .ok path ∧
        path.utf8ByteSize < Host.socketPathLimit ∧ host.IsFree path := by
  rw [bind]
  cases hname : resolveName host.queueDirectory name with
  | error error => simp
  | ok path =>
    simp only [Except.ok.injEq, exists_eq_left', Host.IsFree]
    by_cases hsize : Host.socketPathLimit ≤ path.utf8ByteSize
    · simp [hsize, Nat.not_lt.2 hsize]
    · have htree' : (host.raised path).store.IsTree := htree.makeParents path
      rw [if_neg hsize, and_iff_right (Nat.lt_of_not_le hsize)]
      have hhost : { host with store := (host.store.makeParents path).2 } = host.raised path := rfl
      simp only [hhost]
      cases hparents : (host.store.makeParents path).1 with
      | error error => simp
      | ok _ =>
        rw [and_iff_right rfl]
        refine Iff.trans ?_ (bindPath_ok_iff htree' (Nat.lt_of_not_le hsize) access)
        rcases bindPath (host.raised path) path access with ⟨_ | socket, later⟩ <;> simp

/-- A bind puts directories on a host, and the socket of its receiver, which is new. -/
theorem bind_changes (hsound : host.IsSound) {outcome : Except Transport.Error Receiver}
    (h : bind host name capacity access = (outcome, later)) :
    (∀ place, later.store.nodes.get? place = host.store.nodes.get? place ∨
        later.store.nodes.get? place = some .directory ∨
        ∃ receiver, outcome = .ok receiver ∧ later.store.nodes.get? place = some (.socket receiver.socket)) ∧
      ∀ id < host.nextEndpoint, later.isLive id = host.isLive id := by
  have hraised (path : String) (place : Place) :
      (host.raised path).store.nodes.get? place = host.store.nodes.get? place ∨
        (host.raised path).store.nodes.get? place = some .directory :=
    ((host.store.raises_makeParents path).nodes place).imp_right fun ⟨_, _, _, hlookup⟩ =>
      Store.lookup_node hlookup
  rcases bind_cases hsound.tree h with
    ⟨error, -, rfl | ⟨path, -, rfl⟩⟩ | ⟨path, place, rfl, -, -, hsettled⟩
  · exact ⟨fun _ => .inl rfl, fun _ _ => rfl⟩
  · exact ⟨fun other => (hraised path other).imp_right .inl, fun _ _ => rfl⟩
  · rw [hsettled.later_eq]
    refine ⟨fun other => ?_, fun id hid => ?_⟩
    · by_cases hplace : other = place
      · subst hplace
        exact .inr (.inr ⟨_, rfl, Table.get?_insert_self _ _ _⟩)
      · rw [Store.setNode, Table.get?_insert_of_ne _ _ hplace]
        exact (hraised path other).imp_right .inl
    · have hne : id ≠ (host.raised path).nextEndpoint := Nat.ne_of_lt hid
      rw [Host.isLive, Host.setEndpoint, Table.get?_insert_of_ne _ _ hne]
      rfl

theorem Settled.isSound (h : Settled host later path access place) (hsound : host.IsSound) :
    later.IsSound := by
  refine ⟨h.tree, ?_, ?_⟩ <;> rw [h.later_eq]
  · intro id hbeyond
    have hne : id ≠ host.nextEndpoint := Nat.ne_of_gt hbeyond
    exact (Table.get?_insert_of_ne _ _ hne).trans (hsound.endpoint (Nat.le_of_succ_le hbeyond))
  · intro other id hentry
    by_cases hplace : other = place
    · subst hplace
      have hnew : id = host.nextEndpoint := by
        simpa [Store.setNode, eq_comm] using hentry
      rw [hnew]
      exact Nat.lt_succ_self _
    · have hold : host.store.nodes.get? other = some (.socket id) :=
        (Table.get?_insert_of_ne _ _ hplace).symm.trans hentry
      exact Nat.lt_succ_of_lt (hsound.entry hold)

theorem drop_of_owned (htree : host.store.IsTree)
    (h : host.store.lookup .entry receiver.path = .ok (place, .socket receiver.socket)) :
    receiver.drop host = { host with
      store := { host.store with nodes := host.store.nodes.erase place }
      endpoints := host.endpoints.erase receiver.socket } := by
  rw [drop, h]
  simp only [if_true, htree.removeTree_eq (Store.lookup_node h) (Node.socket_ne_directory _)]

theorem drop_of_not_owned
    (h : ∀ place, host.store.lookup .entry receiver.path ≠ .ok (place, .socket receiver.socket)) :
    receiver.drop host = { host with endpoints := host.endpoints.erase receiver.socket } := by
  rw [drop]
  split
  · rename_i place id hlookup
    rw [if_neg]
    rintro rfl
    exact h place hlookup
  · rfl

/-- An entry that leads to the socket of a receiver is removed with it, and nothing else is. -/
theorem drop_cases (htree : host.store.IsTree) (receiver : Receiver) :
    (∃ place, host.store.lookup .entry receiver.path = .ok (place, .socket receiver.socket) ∧
        receiver.drop host = { host with
          store := { host.store with nodes := host.store.nodes.erase place }
          endpoints := host.endpoints.erase receiver.socket }) ∨
      receiver.drop host = { host with endpoints := host.endpoints.erase receiver.socket } := by
  by_cases h : ∃ place, host.store.lookup .entry receiver.path = .ok (place, .socket receiver.socket)
  · obtain ⟨place, hlookup⟩ := h
    exact .inl ⟨place, hlookup, drop_of_owned htree hlookup⟩
  · exact .inr (drop_of_not_owned fun place hlookup => h ⟨place, hlookup⟩)

end Queue.Receiver

end Courier
