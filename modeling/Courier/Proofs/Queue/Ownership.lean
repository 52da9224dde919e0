import Courier.Proofs.Queue.Binding
import Mathlib

/-! # Who owns the socket at a path

Receivers are bound and dropped on a host where others make, replace and remove entries as they like.
Every step of the program spares what is not its own (`Host.Spares`), so that a receiver whose path nobody
else has touched still has its socket there (`Holdings.Kept`).
-/

namespace Courier

namespace Host

/-- Whether what a host holds is there later too: each socket and each entry, with the exception of entries
of sockets that nobody receives from and of one socket that is given up. -/
structure Spares (lost : Option Nat) (host later : Host) : Prop where
  nodes : ∀ {place : Place} {node : Node}, host.store.nodes.get? place = some node →
    (∀ id, node = .socket id → host.isLive id = true ∧ lost ≠ some id) →
    later.store.nodes.get? place = some node
  endpoints : ∀ {id : Nat} {endpoint : Endpoint}, host.endpoints.get? id = some endpoint → lost ≠ some id →
    later.endpoints.get? id = some endpoint
  store : later.store = { host.store with nodes := later.store.nodes }

namespace Spares

variable {host middle later : Host} {lost : Option Nat} {path : String} {place : Place} {socket : Nat}
  {queued : List Bytes}

theorem refl (lost : Option Nat) (host : Host) : Spares lost host host :=
  ⟨fun hnode _ => hnode, fun hendpoint _ => hendpoint, rfl⟩

theorem isLive (h : Spares lost host later) (hlive : host.isLive socket = true)
    (hlost : lost ≠ some socket) : later.isLive socket = true := by
  rw [Host.isLive] at hlive ⊢
  cases hendpoint : host.endpoints.get? socket with
  | none => simp [hendpoint] at hlive
  | some endpoint =>
    rw [h.endpoints hendpoint hlost, ← hendpoint]
    exact hlive

theorem serves (h : Spares lost host later) (hserves : host.Serves socket queued)
    (hlost : lost ≠ some socket) : later.Serves socket queued := by
  obtain ⟨access, hendpoint⟩ := hserves
  exact ⟨access, h.endpoints hendpoint hlost⟩

theorem leads (h : Spares lost host later) : Store.Leads host.store later.store :=
  ⟨fun hnode => h.nodes hnode nofun, fun hnode => h.nodes hnode nofun, by rw [h.store]⟩

theorem lookup (h : Spares lost host later)
    (hlookup : host.store.lookup .entry path = .ok (place, .socket socket))
    (hlive : host.isLive socket = true) (hlost : lost ≠ some socket) :
    later.store.lookup .entry path = .ok (place, .socket socket) := by
  refine h.leads.lookup nofun (fun _ hfollows => hfollows) hlookup ?_ nofun
  refine h.nodes (Store.lookup_node hlookup) fun id hid => ?_
  obtain rfl : socket = id := by simpa using hid
  exact ⟨hlive, hlost⟩

theorem trans (h : Spares none host middle) (hlater : Spares none middle later) : Spares none host later := by
  refine ⟨fun {place} {node} hnode hlive => ?_, fun hendpoint _ => ?_, ?_⟩
  · refine hlater.nodes (h.nodes hnode hlive) fun id hid => ⟨h.isLive (hlive id hid).1 nofun, nofun⟩
  · exact hlater.endpoints (h.endpoints hendpoint nofun) nofun
  · rw [hlater.store, h.store]

end Spares

theorem spares_raised (host : Host) (path : String) : Spares none host (host.raised path) := by
  have hraises := host.store.raises_makeParents path
  exact ⟨fun hnode _ => hraises.keeps.nodes hnode, fun hendpoint _ => hendpoint, hraises.rest⟩

end Host

namespace Queue.Receiver

variable {host later : Host} {receiver : Receiver} {path : String} {access : Access} {place : Place}

theorem Settled.spares (h : Settled host later path access place) (hsound : host.IsSound) :
    host.Spares none later := by
  rw [h.later_eq]
  refine ⟨fun {other} {node} hnode hlive => ?_, fun {id} {endpoint} hendpoint _ => ?_, rfl⟩
  · have hne : other ≠ place := by
      rintro rfl
      rcases h.vacated with hvacant | ⟨id, hsocket, hdead⟩
      · rw [hnode] at hvacant
        cases hvacant
      · rw [hnode] at hsocket
        rw [(hlive id (Option.some.inj hsocket)).1] at hdead
        cases hdead
    exact (Table.get?_insert_of_ne _ _ hne).trans hnode
  · have hne : id ≠ host.nextEndpoint := by
      rintro rfl
      rw [hsound.endpoint (Nat.le_refl _)] at hendpoint
      cases hendpoint
    exact (Table.get?_insert_of_ne _ _ hne).trans hendpoint

theorem hasParents_of_bind {name : String} {capacity : Nat} (hsound : host.IsSound)
    (hbind : bind host name capacity access = (.ok receiver, later)) :
    later.store.HasParents receiver.path := by
  obtain ⟨free, hfreeName, -, hparents, -⟩ :=
    (bind_ok_iff hsound.tree name capacity access).1 ⟨receiver, later, hbind⟩
  rcases bind_cases hsound.tree hbind with ⟨error, hfailed, -⟩ | ⟨path, place, hreceiver, hname, -, hsettled⟩
  · cases hfailed
  · obtain rfl := Except.ok.inj hreceiver
    obtain rfl : free = path := Except.ok.inj (hfreeName.symm.trans hname)
    have hraised : (host.raised free).store.HasParents free := Store.hasParents_of_makeParents hparents
    exact hraised.of_leads (hsettled.spares (hsound.raised free)).leads

theorem spares_drop (htree : host.store.IsTree) (receiver : Receiver) :
    host.Spares (some receiver.socket) (receiver.drop host) := by
  have hendpoints {id : Nat} {endpoint : Endpoint} (hendpoint : host.endpoints.get? id = some endpoint)
      (hlost : some receiver.socket ≠ some id) :
      (host.endpoints.erase receiver.socket).get? id = some endpoint := by
    rw [Table.get?_erase_of_ne _ fun h => hlost (congrArg some h.symm), hendpoint]
  rcases drop_cases htree receiver with ⟨place, hlookup, hdrop⟩ | hdrop
  · rw [hdrop]
    refine ⟨fun {other} {node} hnode hlive => ?_, hendpoints, rfl⟩
    have hne : other ≠ place := by
      rintro rfl
      rw [Store.lookup_node hlookup] at hnode
      exact (hlive _ (Option.some.inj hnode).symm).2 rfl
    exact (Table.get?_erase_of_ne _ hne).trans hnode
  · rw [hdrop]
    exact ⟨fun hnode _ => hnode, hendpoints, rfl⟩

theorem isSound_drop (hsound : host.IsSound) (receiver : Receiver) : (receiver.drop host).IsSound := by
  have hendpoints {id : Nat} (hbeyond : host.nextEndpoint ≤ id) :
      (host.endpoints.erase receiver.socket).get? id = none := by
    rw [Table.get?_erase, hsound.endpoint hbeyond, ite_self]
  by_cases h : ∃ place, host.store.lookup .entry receiver.path = .ok (place, .socket receiver.socket)
  · obtain ⟨place, hlookup⟩ := h
    have htree := hsound.tree.removeTree (Store.lookup_node hlookup) (Node.socket_ne_directory _)
    rw [hsound.tree.removeTree_eq (Store.lookup_node hlookup) (Node.socket_ne_directory _)] at htree
    rw [drop_of_owned hsound.tree hlookup]
    refine ⟨htree, hendpoints, fun {other} {id} hentry => ?_⟩
    by_cases hplace : other = place
    · simp [hplace] at hentry
    · exact hsound.entry ((Table.get?_erase_of_ne _ hplace).symm.trans hentry)
  · rw [drop_of_not_owned fun place hlookup => h ⟨place, hlookup⟩]
    exact ⟨hsound.tree, hendpoints, hsound.entry⟩

end Queue.Receiver

namespace Queue

structure Holdings where
  host : Host
  receivers : List Receiver

namespace Holdings

/-- What others can do to a host: anything that ends no live receiver, leaves a tree, keeps the number of
the next socket unused, and changes nothing about where some paths lead. -/
structure Meddles (untouched : String → Prop) (holdings : Holdings) (later : Host) : Prop where
  sound : later.IsSound
  live : ∀ receiver ∈ holdings.receivers, ∃ queued, later.Serves receiver.socket queued
  lookup : ∀ path, untouched path →
    later.store.lookup .entry path = holdings.host.store.lookup .entry path

inductive Step (untouched : String → Prop) : Holdings → Holdings → Prop
  | bind {host later : Host} {receivers : List Receiver} {name : String} {capacity : Nat} {access : Access}
      {receiver : Receiver} (hbind : Receiver.bind host name capacity access = (.ok receiver, later)) :
      Step untouched ⟨host, receivers⟩ ⟨later, receiver :: receivers⟩
  | refuse {host later : Host} {receivers : List Receiver} {name : String} {capacity : Nat} {access : Access}
      {error : Transport.Error} (hbind : Receiver.bind host name capacity access = (.error error, later)) :
      Step untouched ⟨host, receivers⟩ ⟨later, receivers⟩
  | drop {host : Host} {receivers : List Receiver} {receiver : Receiver} (hmem : receiver ∈ receivers) :
      Step untouched ⟨host, receivers⟩ ⟨receiver.drop host, receivers.erase receiver⟩
  | meddle {host later : Host} {receivers : List Receiver}
      (hmeddles : Meddles untouched ⟨host, receivers⟩ later) :
      Step untouched ⟨host, receivers⟩ ⟨later, receivers⟩

inductive Reached (untouched : String → Prop) (start : Host) : Holdings → Prop
  | start : Reached untouched start ⟨start, []⟩
  | step {holdings next : Holdings} (hreached : Reached untouched start holdings)
      (hstep : Step untouched holdings next) : Reached untouched start next

variable {untouched : String → Prop} {start host later : Host} {holdings next : Holdings}
  {receivers : List Receiver} {receiver : Receiver} {name : String} {capacity : Nat} {access : Access}
  {error : Transport.Error}

structure Kept (untouched : String → Prop) (holdings : Holdings) : Prop where
  sound : holdings.host.IsSound
  live : ∀ receiver ∈ holdings.receivers, ∃ queued, holdings.host.Serves receiver.socket queued
  distinct : (holdings.receivers.map Receiver.socket).Nodup
  size : ∀ receiver ∈ holdings.receivers, receiver.path.utf8ByteSize < Host.socketPathLimit
  home : ∀ receiver ∈ holdings.receivers, untouched receiver.path →
    ∃ place, holdings.host.store.lookup .entry receiver.path = .ok (place, .socket receiver.socket)

namespace Kept

theorem eq_of_socket (h : Kept untouched holdings) {other : Receiver}
    (hmem : receiver ∈ holdings.receivers) (hother : other ∈ holdings.receivers)
    (hsocket : other.socket = receiver.socket) : other = receiver :=
  List.inj_on_of_nodup_map h.distinct hother hmem hsocket

/-- What spares the sockets of some receivers keeps all that is known of them. -/
theorem spared (h : Kept untouched ⟨host, receivers⟩) {lost : Option Nat} {remaining : List Receiver}
    (hspares : host.Spares lost later) (hsound : later.IsSound) (hsublist : remaining.Sublist receivers)
    (hlost : ∀ receiver ∈ remaining, lost ≠ some receiver.socket) :
    Kept untouched ⟨later, remaining⟩ := by
  refine ⟨hsound, fun receiver hmem => ?_, h.distinct.sublist (hsublist.map _), fun receiver hmem => ?_,
    fun receiver hmem huntouched => ?_⟩
  · obtain ⟨queued, hserves⟩ := h.live receiver (hsublist.subset hmem)
    exact ⟨queued, hspares.serves hserves (hlost receiver hmem)⟩
  · exact h.size receiver (hsublist.subset hmem)
  · obtain ⟨queued, hserves⟩ := h.live receiver (hsublist.subset hmem)
    obtain ⟨place, hlookup⟩ := h.home receiver (hsublist.subset hmem) huntouched
    exact ⟨place, hspares.lookup hlookup hserves.isLive (hlost receiver hmem)⟩

theorem bind (h : Kept untouched ⟨host, receivers⟩)
    (hbind : Receiver.bind host name capacity access = (.ok receiver, later)) :
    Kept untouched ⟨later, receiver :: receivers⟩ := by
  rcases Receiver.bind_cases h.sound.tree hbind with
    ⟨error, hfailed, -⟩ | ⟨path, place, hreceiver, -, hsize, hsettled⟩
  · cases hfailed
  · obtain rfl := Except.ok.inj hreceiver
    have hraised := h.sound.raised path
    have hspares := (host.spares_raised path).trans (hsettled.spares hraised)
    have hrest := h.spared hspares (hsettled.isSound hraised) (List.Sublist.refl _) fun _ _ => nofun
    have hserves : later.Serves host.nextEndpoint [] := by
      rw [hsettled.later_eq]
      exact ⟨access, Table.get?_insert_self _ _ _⟩
    refine ⟨hrest.sound, ?_, List.nodup_cons.2 ⟨fun hold => ?_, hrest.distinct⟩, ?_, ?_⟩
    · exact List.forall_mem_cons.2 ⟨⟨[], hserves⟩, hrest.live⟩
    · obtain ⟨other, hother, hsocket⟩ := List.mem_map.1 hold
      obtain ⟨queued, hlive⟩ := h.live other hother
      exact Nat.ne_of_lt (h.sound.lt_nextEndpoint hlive.isLive) hsocket
    · exact List.forall_mem_cons.2 ⟨hsize, hrest.size⟩
    · exact List.forall_mem_cons.2 ⟨fun _ => ⟨place, hsettled.lookup .entry nofun⟩, hrest.home⟩

theorem refuse (h : Kept untouched ⟨host, receivers⟩)
    (hbind : Receiver.bind host name capacity access = (.error error, later)) :
    Kept untouched ⟨later, receivers⟩ := by
  rcases Receiver.bind_cases h.sound.tree hbind with
    ⟨error, -, rfl | ⟨path, -, rfl⟩⟩ | ⟨path, place, hreceiver, -⟩
  · exact h
  · exact h.spared (host.spares_raised path) (h.sound.raised path) (List.Sublist.refl _) fun _ _ => nofun
  · cases hreceiver

theorem drop (h : Kept untouched ⟨host, receivers⟩) (hmem : receiver ∈ receivers) :
    Kept untouched ⟨receiver.drop host, receivers.erase receiver⟩ := by
  refine h.spared (Receiver.spares_drop h.sound.tree receiver) (Receiver.isSound_drop h.sound receiver)
    List.erase_sublist fun other hother hsame => ?_
  obtain ⟨hne, hother⟩ := h.distinct.of_map.mem_erase_iff.1 hother
  exact hne (h.eq_of_socket hmem hother (Option.some.inj hsame).symm)

theorem meddle (h : Kept untouched ⟨host, receivers⟩) (hmeddles : Meddles untouched ⟨host, receivers⟩ later) :
    Kept untouched ⟨later, receivers⟩ where
  sound := hmeddles.sound
  live := hmeddles.live
  distinct := h.distinct
  size := h.size
  home receiver hmem huntouched := by
    rw [hmeddles.lookup receiver.path huntouched]
    exact h.home receiver hmem huntouched

theorem step (h : Kept untouched holdings) (hstep : Step untouched holdings next) : Kept untouched next := by
  cases hstep with
  | bind hbind => exact h.bind hbind
  | refuse hbind => exact h.refuse hbind
  | drop hmem => exact h.drop hmem
  | meddle hmeddles => exact h.meddle hmeddles

theorem of_reached (hsound : start.IsSound) (h : Reached untouched start holdings) :
    Kept untouched holdings := by
  induction h with
  | start => exact ⟨hsound, nofun, .nil, nofun, nofun⟩
  | step hreached hstep ih => exact ih.step hstep

end Kept

structure Takes (host later : Host) (name : String) (receiver : Receiver) : Prop where
  name : resolveName host.queueDirectory name = .ok receiver.path
  size : receiver.path.utf8ByteSize < Host.socketPathLimit
  free : ∀ place node, host.store.lookup .entry receiver.path = .ok (place, node) →
    ∃ id, node = .socket id ∧ host.isLive id = false
  entry : ∃ place, later.store.lookup .entry receiver.path = .ok (place, .socket receiver.socket) ∧
    (host.store.nodes.get? place = none ∨
      ∃ id, host.store.nodes.get? place = some (.socket id) ∧ host.isLive id = false)
  serves : later.Serves receiver.socket []

theorem takes_of_bind (htree : host.store.IsTree)
    (hbind : Receiver.bind host name capacity access = (.ok receiver, later)) :
    Takes host later name receiver := by
  rcases Receiver.bind_cases htree hbind with
    ⟨error, hfailed, -⟩ | ⟨path, place, hreceiver, hname, hsize, hsettled⟩
  · cases hfailed
  · obtain rfl := Except.ok.inj hreceiver
    refine ⟨hname, hsize, fun found node hlookup => ?_, ⟨place, hsettled.lookup .entry nofun, ?_⟩, ?_⟩
    · exact hsettled.free found node ((host.store.raises_makeParents path).keeps.lookup_entry hlookup)
    · rcases hsettled.vacated with hvacant | ⟨id, hsocket, hdead⟩
      · left
        cases hnode : host.store.nodes.get? place with
        | none => rfl
        | some node =>
          have hstands := (host.store.raises_makeParents path).keeps.nodes hnode
          exact absurd (hstands.symm.trans hvacant) nofun
      · rcases (host.store.raises_makeParents path).nodes place with hsame | ⟨hvacant, -⟩
        · exact .inr ⟨id, hsame ▸ hsocket, hdead⟩
        · exact .inl hvacant
    · rw [hsettled.later_eq]
      exact ⟨access, Table.get?_insert_self _ _ _⟩

/-- A bind that fails: directories missing above the path may have been made, and that is all. -/
structure Refuses (host later : Host) (name : String) : Prop where
  rest : later = { host with store := later.store }
  store : later.store = host.store ∨ ∃ path, resolveName host.queueDirectory name = .ok path ∧
    Store.Raises (Path.isAbsolute path) (Store.namesAbove path) host.store later.store

theorem refuses_of_bind (htree : host.store.IsTree)
    (hbind : Receiver.bind host name capacity access = (.error error, later)) : Refuses host later name := by
  rcases Receiver.bind_cases htree hbind with
    ⟨cause, -, rfl | ⟨path, hname, rfl⟩⟩ | ⟨path, place, hreceiver, -⟩
  · exact ⟨rfl, .inl rfl⟩
  · exact ⟨rfl, .inr ⟨path, hname, host.store.raises_makeParents path⟩⟩
  · cases hreceiver

theorem spares_bind (hsound : host.IsSound) {outcome : Except Transport.Error Receiver}
    (hbind : Receiver.bind host name capacity access = (outcome, later)) : host.Spares none later := by
  rcases Receiver.bind_cases hsound.tree hbind with
    ⟨error, -, rfl | ⟨path, -, rfl⟩⟩ | ⟨path, place, -, -, -, hsettled⟩
  · exact .refl _ _
  · exact host.spares_raised path
  · exact (host.spares_raised path).trans (hsettled.spares (hsound.raised path))

/-- A receiver whose path is its own: the path leads to its socket, what is sent there is queued for it, and
no other receiver that is live has the path. -/
structure Owns (holdings : Holdings) (receiver : Receiver) : Prop where
  entry : ∃ place, holdings.host.store.lookup .entry receiver.path = .ok (place, .socket receiver.socket)
  reached : ∃ access queued, holdings.host.endpoints.get? receiver.socket = some { access, queue := queued } ∧
    ∀ message, message.length ≤ Sender.messageLimit →
      Sender.deliver holdings.host receiver.path message
        = .ok (holdings.host.setEndpoint receiver.socket { access, queue := queued ++ [message] })
  alone : ∀ other ∈ holdings.receivers, other.path = receiver.path → other = receiver

theorem Kept.leads (h : Kept untouched holdings) (hmem : receiver ∈ holdings.receivers)
    (huntouched : untouched receiver.path) :
    Host.checkSocketPath receiver.path = .ok () ∧
      holdings.host.store.node true receiver.path = .ok (.socket receiver.socket) := by
  obtain ⟨place, hlookup⟩ := h.home receiver hmem huntouched
  obtain ⟨arrival, hfind, -⟩ := Store.lookup_eq_ok_iff.1 hlookup
  exact ⟨Host.checkSocketPath_of_find hfind (h.size receiver hmem),
    Store.node_eq_ok_iff_lookup.2 ⟨place, Store.lookup_target hlookup nofun⟩⟩

theorem Kept.owns (h : Kept untouched holdings) (hmem : receiver ∈ holdings.receivers)
    (huntouched : untouched receiver.path) : Owns holdings receiver := by
  obtain ⟨place, hlookup⟩ := h.home receiver hmem huntouched
  obtain ⟨queued, access, hendpoint⟩ := h.live receiver hmem
  refine ⟨⟨place, hlookup⟩, ⟨access, queued, hendpoint, fun message hfits => ?_⟩, fun other hother hpath => ?_⟩
  · obtain ⟨hcheck, hnode⟩ := h.leads hmem huntouched
    simp [Sender.deliver, hcheck, Nat.not_lt.2 hfits, hnode, hendpoint]
  · obtain ⟨otherPlace, hotherLookup⟩ := h.home other hother (hpath ▸ huntouched)
    rw [hpath, hlookup] at hotherLookup
    obtain ⟨-, hsame⟩ := Prod.mk.inj (Except.ok.inj hotherLookup)
    exact h.eq_of_socket hmem hother (Node.socket.inj hsame).symm

/-- However receivers are bound and dropped and whatever others do in between: a bind takes a path only where
nobody receives, and leaves everything as it was if it fails, but for directories above the path. A receiver
that is dropped takes with it the entry at its path if that is its socket, and no other entry. So each spares
the sockets of all other receivers, and a receiver whose path nobody else touches is the one, and the only
one, that is reached there. -/
theorem sockets_stay_with_their_receivers (hsound : start.IsSound)
    (hreached : Reached untouched start holdings) :
    (∀ name capacity access,
        holdings.host.Spares none (Receiver.bind holdings.host name capacity access).2 ∧
        (∀ receiver later, Receiver.bind holdings.host name capacity access = (.ok receiver, later) →
          Takes holdings.host later name receiver) ∧
        ∀ error later, Receiver.bind holdings.host name capacity access = (.error error, later) →
          Refuses holdings.host later name) ∧
      (∀ receiver ∈ holdings.receivers,
        holdings.host.isLive receiver.socket = true ∧
        holdings.host.Spares (some receiver.socket) (receiver.drop holdings.host) ∧
        (∀ place, holdings.host.store.lookup .entry receiver.path = .ok (place, .socket receiver.socket) →
          (receiver.drop holdings.host).store
            = { holdings.host.store with nodes := holdings.host.store.nodes.erase place }) ∧
        ((∀ place, holdings.host.store.lookup .entry receiver.path ≠ .ok (place, .socket receiver.socket)) →
          (receiver.drop holdings.host).store = holdings.host.store)) ∧
      (holdings.receivers.map Receiver.socket).Nodup ∧
      ∀ receiver ∈ holdings.receivers, untouched receiver.path → Owns holdings receiver := by
  have hkept := Kept.of_reached hsound hreached
  refine ⟨fun name capacity access => ⟨?_, fun receiver later hbind => ?_, fun error later hbind => ?_⟩,
    fun receiver hmem => ⟨?_, ?_, fun place hlookup => ?_, fun hlookup => ?_⟩, hkept.distinct,
    fun receiver hmem huntouched => hkept.owns hmem huntouched⟩
  · exact spares_bind hkept.sound rfl
  · exact takes_of_bind hkept.sound.tree hbind
  · exact refuses_of_bind hkept.sound.tree hbind
  · obtain ⟨queued, hserves⟩ := hkept.live receiver hmem
    exact hserves.isLive
  · exact Receiver.spares_drop hkept.sound.tree receiver
  · rw [Receiver.drop_of_owned hkept.sound.tree hlookup]
  · rw [Receiver.drop_of_not_owned hlookup]

/-- Two queues are bound, and others replace the socket of the second one by a file, which it leaves alone
when it is dropped. -/
theorem replaced_entry_is_left_alone :
    let first : Receiver := ⟨"/b", "/b", 8, 0⟩
    let second : Receiver := ⟨"/c", "/c", 8, 1⟩
    let one : Host := { Host.isolated.setEndpoint 0 { access := .standard } with
      store := Store.initial.setNode ["b"] (.socket 0), nextEndpoint := 1 }
    let two : Host := { one.setEndpoint 1 { access := .standard } with
      store := one.store.setNode ["c"] (.socket 1), nextEndpoint := 2 }
    let replaced : Host := { two with
      store := (two.store.removeTree ["c"]).setNode ["c"] (.file 7) }
    Host.isolated.IsSound ∧ Reached (· = "/b") .isolated ⟨replaced, [second, first]⟩ ∧
      Owns ⟨replaced, [second, first]⟩ first ∧
      (second.drop replaced).store = replaced.store ∧
      replaced.store.lookup .entry "/c" = .ok (["c"], .file 7) := by
  intro first second one two replaced
  have hone : Reached (· = "/b") .isolated ⟨one, [first]⟩ :=
    .step .start (.bind (show Receiver.bind .isolated "/b" 8 .standard = (.ok first, one) by cbv))
  have htwo : Reached (· = "/b") .isolated ⟨two, [second, first]⟩ :=
    .step hone (.bind (show Receiver.bind one "/c" 8 .standard = (.ok second, two) by cbv))
  have hsound : two.IsSound := (Kept.of_reached Host.isSound_isolated htwo).sound
  have hsecond : two.store.lookup .entry "/c" = .ok (["c"], .socket 1) := by cbv
  have hfile : replaced.store.lookup .entry "/c" = .ok (["c"], .file 7) := by cbv
  have hmeddles : Meddles (· = "/b") ⟨two, [second, first]⟩ replaced := by
    refine ⟨⟨?_, hsound.endpoint, fun {place} {id} hentry => ?_⟩, ?_, ?_⟩
    · exact (hsound.tree.removeTree (Store.lookup_node hsecond) (Node.socket_ne_directory 1)).setNode
        (hsound.tree.vacancy_removeTree hsecond)
    · by_cases hplace : place = ["c"]
      · subst hplace
        rw [Store.lookup_node hfile] at hentry
        cases hentry
      · have hremains := (Table.get?_insert_of_ne _ _ hplace).symm.trans hentry
        rw [hsound.tree.get?_removeTree (Store.lookup_node hsecond) (Node.socket_ne_directory 1),
          if_neg hplace] at hremains
        exact hsound.entry hremains
    · rintro receiver hmem
      obtain rfl | rfl : receiver = second ∨ receiver = first := by simpa using hmem
      · exact ⟨[], .standard, by cbv⟩
      · exact ⟨[], .standard, by cbv⟩
    · rintro path rfl
      cbv
  have hreached := Reached.step htwo (.meddle hmeddles)
  obtain ⟨-, hdrops, -, howns⟩ := sockets_stay_with_their_receivers Host.isSound_isolated hreached
  refine ⟨Host.isSound_isolated, hreached, howns first (by simp) rfl, ?_, hfile⟩
  obtain ⟨-, -, -, hleft⟩ := hdrops second (by simp)
  refine hleft fun place hlookup => ?_
  rw [show second.path = "/c" from rfl, hfile] at hlookup
  cases hlookup

end Holdings

end Queue

end Courier
