import Courier.Proofs.Reception.Site

/-! # The lifecycle of servers

A server runs exactly while its queue is bound and stands at its path. What a start or a stop comes to is said
for one server (`Server.Starts`, `Server.Stops`); what is said of a path after a stop (`Site.Cleared`) and of
tallies holds for all that follows.
-/

namespace Courier

namespace Reception

variable {σ : Type}

namespace Site

variable {untouched : String → Prop} {handlers : Nat → Handler σ} {first site next : Site σ}
  {servers : Table Nat Server} {server : Server} {receiver : Queue.Receiver} {i j : Nat}
  {host later : Host} {left : σ} {path : String} {place : Place}

/-- Whether nobody receives at a path, or a server that runs does. -/
def Cleared (site : Site σ) (path : String) : Prop :=
  ∃ arrival, site.host.store.find .entry path = .ok arrival ∧
    (∀ target, arrival.node ≠ some (.link target)) ∧
    ∀ id, arrival.node = some (.socket id) → site.host.isLive id = true →
      ∃ i receiver, Runs site.servers i receiver ∧ receiver.socket = id

namespace Cleared

theorem of_vacancy (h : site.host.store.vacancy false path = .ok place) : Cleared site path := by
  obtain ⟨arrival, hfind, hnode, -⟩ := Store.find_of_vacancy h
  refine ⟨arrival, hfind, ?_, ?_⟩ <;> rw [hnode] <;> nofun

/-- What is sent to a path that was cleared comes to a server that runs, if it is sent at all. -/
theorem of_deliver (h : Cleared site path) {message : Bytes}
    (hsend : Queue.Sender.deliver site.host path message = .ok later) :
    ∃ i receiver, Runs site.servers i receiver ∧
      site.host.store.node true path = .ok (.socket receiver.socket) := by
  obtain ⟨arrival, hfind, hlink, hclear⟩ := h
  obtain ⟨id, endpoint, hnode, hendpoint, hlive, -⟩ := Queue.Sender.of_deliver hsend
  obtain ⟨reached, hreached, hsocket, -⟩ := Store.node_eq_ok_iff.1 hnode
  -- no link stands at the path, so a sender that follows links comes to the same place
  have htarget : site.host.store.find .target path = .ok { arrival with
      node := site.host.store.nodes.get? arrival.place } := by
    refine (Store.Keeps.refl _).leads.find nofun (fun _ _ _ => rfl) hfind fun target hthere => ?_
    rw [← Store.node_find hfind] at hthere
    exact absurd hthere (hlink target)
  obtain rfl := Except.ok.inj (hreached.symm.trans htarget)
  obtain ⟨i, receiver, hruns, rfl⟩ := hclear id ((Store.node_find hfind).trans hsocket)
    (by simp [Host.isLive, hendpoint, hlive])
  exact ⟨i, receiver, hruns, hnode⟩

/-- A change to the host that puts nothing at any path but directories and sockets of servers that run, and
brings no socket to life. -/
theorem change (h : Cleared site path) (hsound : site.host.IsSound)
    (hleads : Store.Leads site.host.store later.store)
    (hnodes : ∀ place, later.store.nodes.get? place = site.host.store.nodes.get? place ∨
      later.store.nodes.get? place = none ∨ later.store.nodes.get? place = some .directory ∨
      ∃ i receiver, Runs servers i receiver ∧
        later.store.nodes.get? place = some (.socket receiver.socket))
    (hlive : ∀ id < site.host.nextEndpoint, later.isLive id = true → site.host.isLive id = true)
    (hruns : ∀ i receiver, Runs site.servers i receiver → later.isLive receiver.socket = true →
      Runs servers i receiver) (left : σ) : Cleared ⟨later, servers, left⟩ path := by
  obtain ⟨arrival, hfind, hlink, hclear⟩ := h
  have hplace := Store.node_find hfind
  have hnolink (target : String) : later.store.nodes.get? arrival.place ≠ some (.link target) := by
    intro htarget
    rcases hnodes arrival.place with hsame | hnone | hdirectory | ⟨i, receiver, -, hsocket⟩
    · exact hlink target (hplace.trans (hsame.symm.trans htarget))
    · rw [hnone] at htarget
      cases htarget
    · rw [hdirectory] at htarget
      cases htarget
    · rw [hsocket] at htarget
      cases htarget
  have hfound : later.store.find .entry path
      = .ok { arrival with node := later.store.nodes.get? arrival.place } :=
    hleads.find nofun (fun _ _ hfollows => hfollows) hfind fun target htarget =>
      absurd htarget (hnolink target)
  refine ⟨_, hfound, hnolink, fun id hid hidLive => ?_⟩
  rcases hnodes arrival.place with hsame | hnone | hdirectory | ⟨i, receiver, hnew, hsocket⟩
  · have hthere : arrival.node = some (.socket id) := hplace.trans (hsame.symm.trans hid)
    have hbefore := hlive id (hsound.entry (hplace.symm.trans hthere)) hidLive
    obtain ⟨i, receiver, hold, rfl⟩ := hclear id hthere hbefore
    exact ⟨i, receiver, hruns i receiver hold hidLive, rfl⟩
  · exact absurd (hnone.symm.trans hid) nofun
  · exact absurd (hdirectory.symm.trans hid) nofun
  · exact ⟨i, receiver, hnew, Node.socket.inj (Option.some.inj (hsocket.symm.trans hid))⟩

/-- A change to the host that moves no path and ends or starts no server. -/
theorem busy (h : Cleared site path) (hsound : site.host.IsSound) (hstore : later.store = site.host.store)
    (hlive : ∀ id, later.isLive id = true → site.host.isLive id = true)
    (hruns : ∀ j other, Runs servers j other ↔ Runs site.servers j other) (left : σ) :
    Cleared ⟨later, servers, left⟩ path := by
  refine h.change hsound (hstore ▸ (Store.Keeps.refl _).leads) (fun place => .inl (by rw [hstore]))
    (fun id _ => hlive id) (fun j other hold _ => (hruns j other).2 hold) left

/-- The server of a number gives up its receiver. -/
theorem giveUp (h : Cleared site path) (hsound : site.host.IsSound) (hi : Runs site.servers i receiver)
    (hrest : ∀ j other, Runs servers j other ↔ j ≠ i ∧ Runs site.servers j other) (left : σ) :
    Cleared ⟨receiver.drop site.host, servers, left⟩ path := by
  have hendpoints : (receiver.drop site.host).endpoints = site.host.endpoints.erase receiver.socket := rfl
  refine h.change hsound (Queue.Receiver.spares_drop hsound.tree receiver).leads (fun place => ?_)
    (fun id _ hlater => ?_) (fun j other hj hlater => (hrest j other).2 ⟨?_, hj⟩) left
  · rcases Queue.Receiver.drop_cases hsound.tree receiver with ⟨owned, -, hdrop⟩ | hdrop <;> rw [hdrop]
    · by_cases hplace : place = owned
      · exact .inr (.inl (by simp [hplace]))
      · exact .inl (Table.get?_erase_of_ne _ hplace)
    · exact .inl rfl
  · by_cases hid : id = receiver.socket
    · simp [Host.isLive, hendpoints, hid] at hlater
    · simpa [Host.isLive, hendpoints, Table.get?_erase_of_ne _ hid] using hlater
  · rintro rfl
    obtain rfl := hi.eq hj
    simp [Host.isLive, hendpoints] at hlater

theorem start (h : Cleared site path) (hsound : site.host.IsSound)
    (hserver : site.servers.get? i = some server)
    {outcome : Except Error Unit} {next : Server} (hstart : server.start site.host = (outcome, later, next)) :
    Cleared ⟨later, site.servers.insert i next, site.state⟩ path := by
  rcases Server.start_cases hstart with
    ⟨-, -, rfl, rfl⟩ | ⟨-, error, cause, -, rfl, hbind⟩ | ⟨hqueue, receiver, -, rfl, hbind⟩
  · exact h.busy hsound rfl (fun _ => id) (fun j other => runs_insert_self hserver next rfl) site.state
  · obtain ⟨hnodes, hlive⟩ := Queue.Receiver.bind_changes hsound hbind
    have hleads := (Queue.Holdings.spares_bind hsound hbind).leads
    refine h.change hsound hleads (fun place => ?_) (fun id hid hlater => hlive id hid ▸ hlater)
      (fun j other hold _ => (runs_insert_self hserver next rfl).2 hold) site.state
    rcases hnodes place with hsame | hdirectory | ⟨receiver, hrefused, -⟩
    · exact .inl hsame
    · exact .inr (.inr (.inl hdirectory))
    · cases hrefused
  · obtain ⟨hnodes, hlive⟩ := Queue.Receiver.bind_changes hsound hbind
    have hleads := (Queue.Holdings.spares_bind hsound hbind).leads
    have hi : Runs (site.servers.insert i (server.started receiver)) i receiver := by
      rw [runs_insert, if_pos rfl, Server.started]
    refine h.change hsound hleads (fun place => ?_) (fun id hid hlater => hlive id hid ▸ hlater)
      (fun j other hold _ => ?_) site.state
    · rcases hnodes place with hsame | hdirectory | ⟨bound, hbound, hsocket⟩
      · exact .inl hsame
      · exact .inr (.inr (.inl hdirectory))
      · obtain rfl : receiver = bound := Except.ok.inj hbound
        exact .inr (.inr (.inr ⟨i, receiver, hi, hsocket⟩))
    · have hne : j ≠ i := by
        rintro rfl
        exact not_runs hserver hqueue other hold
      rwa [runs_insert, if_neg hne]

theorem stop (h : Cleared site path) (hkept : Kept untouched site) {handler : Handler σ}
    (hserver : site.servers.get? i = some server) {next : Server}
    (hstop : server.stop handler site.host site.state = (next, later, left)) :
    Cleared ⟨later, site.servers.insert i next, left⟩ path ∧
      Cleared ⟨later, site.servers.erase i, left⟩ path := by
  rcases Server.stop_cases (hkept.stopped hserver) hstop with
    ⟨hqueue, rfl, rfl, rfl⟩ | ⟨receiver, pool, hqueue, rfl, rfl, -⟩
  · exact ⟨h.busy hkept.sound rfl (fun _ => id) (fun j other => runs_insert_self hserver next rfl) site.state,
      h.busy hkept.sound rfl (fun _ => id)
        (fun j other => runs_erase_of_not_runs (not_runs hserver hqueue)) site.state⟩
  · have hi : Runs site.servers i receiver := ⟨server, hserver, hqueue⟩
    exact ⟨h.giveUp hkept.sound hi (fun j other => runs_insert_of_none rfl) left,
      h.giveUp hkept.sound hi (fun j other => runs_erase) left⟩

theorem work (h : Cleared site path) (hkept : Kept untouched site) {handler : Handler σ}
    (hserver : site.servers.get? i = some server) (hqueue : server.queue = some receiver) {pool : Pool}
    {worker : Nat}
    (hwork : server.pool.step handler receiver worker site.host site.state = (pool, later, left)) :
    Cleared ⟨later, site.servers.insert i { server with pool }, left⟩ path := by
  obtain ⟨queued, hserves⟩ := hkept.live ⟨server, hserver, hqueue⟩
  have hsame := (Pool.goes_step handler receiver worker server.pool site.host site.state).host
  rw [hwork] at hsame
  exact h.busy hkept.sound hsame.store (hsame.isLive hserves.isLive)
    (fun j other => runs_insert_self hserver { server with pool } rfl) left

theorem send (h : Cleared site path) (hsound : site.host.IsSound) {other : String} {message : Bytes}
    (hsend : Queue.Sender.deliver site.host other message = .ok later) :
    Cleared ⟨later, site.servers, site.state⟩ path := by
  obtain ⟨id, endpoint, -, hendpoint, hlive, -, -, rfl⟩ := Queue.Sender.of_deliver hsend
  have hsame := site.host.sameBut_setEndpoint id { endpoint with queue := endpoint.queue ++ [message] }
  exact h.busy hsound hsame.store (hsame.isLive (by simp [Host.isLive, hendpoint, hlive]))
    (fun _ _ => Iff.rfl) site.state

theorem meddle (h : Cleared site path) (hsound : site.host.IsSound) (huntouched : untouched path)
    (hmeddles : site.Meddles untouched later) : Cleared ⟨later, site.servers, site.state⟩ path := by
  obtain ⟨arrival, hfind, hlink, hclear⟩ := h
  refine ⟨arrival, (hmeddles.find huntouched).trans hfind, hlink, fun id hid hlive => ?_⟩
  refine hclear id hid ?_
  cases hdead : site.host.isLive id with
  | true => rfl
  | false =>
    -- others could only have revived the socket, which they do not
    have hstays := hmeddles.dead (hsound.entry ((Store.node_find hfind).symm.trans hid)) hdead
    exact absurd (hstays.symm.trans hlive) Bool.false_ne_true

theorem step (h : Cleared site path) (hkept : Kept untouched site) (huntouched : untouched path)
    (hstep : Step untouched handlers site next) : Cleared next path := by
  cases hstep with
  | start hserver hstart => exact h.start hkept.sound hserver hstart
  | stop hserver hstop => exact (h.stop hkept hserver hstop).1
  | drop hserver hstop => exact (h.stop hkept hserver hstop).2
  | work worker hserver hqueue hwork => exact h.work hkept hserver hqueue hwork
  | send hsend => exact h.send hkept.sound hsend
  | meddle hmeddles => exact h.meddle hkept.sound huntouched hmeddles

theorem run (h : Cleared first path) (hkept : Kept untouched first) (huntouched : untouched path)
    (hrun : Run untouched handlers first site) : Cleared site path := by
  induction hrun with
  | refl => exact h
  | step hrun hstep ih => exact ih.step (hkept.run hrun) huntouched hstep

end Cleared

end Site

/-- A server later on: its settings are the same, and nothing that it counted was taken back. -/
structure Server.Becomes (server next : Server) : Prop where
  settings : next = { server with queue := next.queue, pool := next.pool }
  tally : server.pool.tally.Grows next.pool.tally

namespace Server.Becomes

variable {server next last : Server} {host later : Host} {state left : σ}

theorem refl (server : Server) : server.Becomes server := ⟨rfl, .refl _⟩

theorem trans (h : server.Becomes next) (hlast : next.Becomes last) : server.Becomes last :=
  ⟨by rw [hlast.settings, h.settings], h.tally.trans hlast.tally⟩

theorem start {outcome : Except Error Unit} (hstart : server.start host = (outcome, later, next)) :
    server.Becomes next := by
  rcases start_cases hstart with ⟨-, -, -, rfl⟩ | ⟨-, error, cause, -, rfl, -⟩ | ⟨-, receiver, -, rfl, -⟩
  · exact refl next
  · exact refl next
  · exact ⟨rfl, .refl _⟩

theorem stop {handler : Handler σ} (hstop : server.stop handler host state = (next, later, left)) :
    server.Becomes next := by
  cases hqueue : server.queue with
  | some receiver =>
    obtain ⟨pool, last, hstopped, -, -, htally⟩ := stop_of_running handler host state hqueue
    rw [hstop] at hstopped
    obtain ⟨rfl, -, -⟩ := by simpa using hstopped
    exact ⟨rfl, htally⟩
  | none =>
    rw [Server.stop, hqueue] at hstop
    obtain ⟨rfl, -, -⟩ := by simpa using hstop
    exact ⟨by rw [← hqueue], .refl _⟩

end Server.Becomes

structure Server.Starts (server : Server) (host : Host) : Prop where
  spares : host.Spares none (server.start host).2.1
  /-- A start that fails leaves the server as it was, and no socket behind. -/
  refused : ∀ error later next, server.start host = (.error error, later, next) →
    next = server ∧ Queue.Holdings.Refuses host later server.address
  started : ∀ later next, server.start host = (.ok (), later, next) →
    ∃ receiver, next = server.started receiver ∧ Queue.Holdings.Takes host later server.address receiver
  /-- Whether it succeeds is up to the address and what stands at its path, and not to earlier starts. -/
  succeeds : (∃ later next, server.start host = (.ok (), later, next)) ↔
    ∃ path, Queue.resolveName host.queueDirectory server.address = .ok path ∧
      path.utf8ByteSize < Host.socketPathLimit ∧ host.IsFree path

theorem Server.starts {server : Server} {host : Host} (hsound : host.IsSound) (hqueue : server.queue = none) :
    server.Starts host := by
  refine ⟨?_, fun error later next hstart => ?_, fun later next hstart => ?_, start_ok_iff hqueue hsound.tree⟩
  · rcases hstart : server.start host with ⟨outcome, later, next⟩
    rcases start_cases hstart with
      ⟨-, -, rfl, -⟩ | ⟨-, error, cause, -, -, hbind⟩ | ⟨-, receiver, -, -, hbind⟩
    · exact .refl none later
    · exact Queue.Holdings.spares_bind hsound hbind
    · exact Queue.Holdings.spares_bind hsound hbind
  · rcases start_cases hstart with
      ⟨hrunning, -⟩ | ⟨-, error, cause, -, rfl, hbind⟩ | ⟨-, receiver, hstarted, -⟩
    · simp [isRunning, hqueue] at hrunning
    · exact ⟨rfl, Queue.Holdings.refuses_of_bind hsound.tree hbind⟩
    · cases hstarted
  · rcases start_cases hstart with
      ⟨-, hrefused, -⟩ | ⟨-, error, cause, hfailed, -⟩ | ⟨-, receiver, -, rfl, hbind⟩
    · cases hrefused
    · cases hfailed
    · exact ⟨receiver, rfl, Queue.Holdings.takes_of_bind hsound.tree hbind⟩

/-- Whether a path was given up: nothing stands there, a queue can be bound to it, and what is sent to it is
refused. -/
structure IsReleased (host : Host) (path : String) : Prop where
  vacant : host.store.lookup .entry path = .error (.os 2)
  free : host.IsFree path
  refused : ∀ message, ∃ error, Queue.Sender.deliver host path message = .error error

theorem isReleased_of_vacancy {host : Host} {path : String} {place : Place}
    (hparents : host.store.HasParents path) (hvacancy : host.store.vacancy false path = .ok place) :
    IsReleased host path := by
  refine ⟨Store.lookup_of_vacancy hvacancy, Host.isFree_of_vacancy hparents hvacancy, fun message => ?_⟩
  have hcleared : Site.Cleared (⟨host, .empty, ()⟩ : Site Unit) path := .of_vacancy hvacancy
  cases hsend : Queue.Sender.deliver host path message with
  | error error => exact ⟨error, rfl⟩
  | ok later =>
    obtain ⟨i, receiver, ⟨server, hserver, -⟩, -⟩ := hcleared.of_deliver hsend
    cases hserver

namespace Site

variable {untouched : String → Prop} {handlers : Nat → Handler σ} {first site next : Site σ}
  {servers : Table Nat Server} {server : Server} {receiver : Queue.Receiver} {i : Nat}

def Becomes (servers later : Table Nat Server) : Prop :=
  ∀ i next, later.get? i = some next → ∃ server, servers.get? i = some server ∧ server.Becomes next

theorem Becomes.refl (servers : Table Nat Server) : Becomes servers servers :=
  fun _ server hserver => ⟨server, hserver, .refl server⟩

theorem Becomes.trans {middle later : Table Nat Server} (h : Becomes servers middle)
    (hlater : Becomes middle later) : Becomes servers later := by
  intro i next hnext
  obtain ⟨between, hbetween, hnext⟩ := hlater i next hnext
  obtain ⟨server, hserver, hfirst⟩ := h i between hbetween
  exact ⟨server, hserver, hfirst.trans hnext⟩

theorem becomes_insert {next : Server} (hserver : servers.get? i = some server) (h : server.Becomes next) :
    Becomes servers (servers.insert i next) := by
  intro j last hlast
  by_cases hsame : j = i
  · subst hsame
    obtain rfl : next = last := by simpa using hlast
    exact ⟨server, hserver, h⟩
  · rw [Table.get?_insert_of_ne _ _ hsame] at hlast
    exact ⟨last, hlast, .refl last⟩

theorem becomes_erase (servers : Table Nat Server) (i : Nat) : Becomes servers (servers.erase i) := by
  intro j last hlast
  by_cases hsame : j = i
  · simp [hsame] at hlast
  · rw [Table.get?_erase_of_ne _ hsame] at hlast
    exact ⟨last, hlast, .refl last⟩

theorem Step.becomes (hstep : Step untouched handlers site next) : Becomes site.servers next.servers := by
  cases hstep with
  | start hserver hstart => exact becomes_insert hserver (Server.Becomes.start hstart)
  | stop hserver hstop => exact becomes_insert hserver (Server.Becomes.stop hstop)
  | drop => exact becomes_erase _ _
  | @work i server receiver pool later left worker hserver hqueue hwork =>
    have hgoes := Pool.goes_step (handlers i) receiver worker server.pool site.host site.state
    rw [hwork] at hgoes
    exact becomes_insert hserver ⟨rfl, hgoes.tally⟩
  | send | meddle => exact .refl _

theorem Run.becomes (hrun : Run untouched handlers first site) : Becomes first.servers site.servers := by
  induction hrun with
  | refl => exact .refl _
  | step hrun hstep ih => exact ih.trans hstep.becomes

theorem Kept.of_fresh (hsound : first.host.IsSound)
    (hfresh : ∀ i server, first.servers.get? i = some server →
      server.queue = none ∧ server.pool.running = false) : Kept untouched first := by
  have hstopped (i : Nat) (receiver : Queue.Receiver) : ¬ Runs first.servers i receiver := by
    rintro ⟨server, hserver, hqueue⟩
    rw [(hfresh i server hserver).1] at hqueue
    cases hqueue
  refine ⟨⟨[], .of_reached hsound .start, fun receiver => ?_⟩, fun hi _ => absurd hi (hstopped _ _),
    fun hi _ => absurd hi (hstopped _ _), fun {i} {server} hserver => ?_⟩
  · simp [hstopped]
  · obtain ⟨hqueue, hflag⟩ := hfresh i server hserver
    rw [hflag, Server.isRunning, hqueue]
    rfl

/-- The path of a server that runs is released as it gives up its receiver. -/
theorem Kept.vacancy (h : Kept untouched site) (hi : Runs site.servers i receiver)
    (huntouched : untouched receiver.path) :
    ∃ place, (receiver.drop site.host).store.vacancy false receiver.path = .ok place := by
  obtain ⟨place, hlookup⟩ := h.home hi huntouched
  have htree := h.sound.tree
  refine ⟨place, ?_⟩
  rw [Queue.Receiver.drop_of_owned htree hlookup,
    ← htree.removeTree_eq (Store.lookup_node hlookup) (Node.socket_ne_directory _)]
  exact htree.vacancy_removeTree hlookup

/-- What is true of one server of a site, whatever has happened. -/
structure Governs (untouched : String → Prop) (handlers : Nat → Handler σ) (site : Site σ) (i : Nat)
    (server : Server) : Prop where
  flag : server.pool.running = server.isRunning
  /-- It runs exactly while its queue is bound and stands at its path. -/
  bound : (∀ receiver, server.queue = some receiver → untouched receiver.path) →
    (server.isRunning = true ↔ ∃ receiver place, server.queue = some receiver ∧
      site.host.isLive receiver.socket = true ∧
      site.host.store.lookup .entry receiver.path = .ok (place, .socket receiver.socket))
  /-- No other server that runs has its path. -/
  alone : ∀ receiver, server.queue = some receiver → untouched receiver.path →
    ∀ j other, Runs site.servers j other → other.path = receiver.path → j = i
  again : server.isRunning = true →
    server.start site.host = (.error (.alreadyRunning server.address), site.host, server)
  starts : server.isRunning = false → server.Starts site.host
  idle : server.isRunning = false →
    server.stop (handlers i) site.host site.state = (server, site.host, site.state)
  /-- To stop it ends its workers and is for the host to drop its receiver. -/
  stops : ∀ receiver, server.queue = some receiver →
    site.host.Spares (some receiver.socket) (receiver.drop site.host) ∧
    ∃ pool left, server.stop (handlers i) site.host site.state
        = ({ server with queue := none, pool }, receiver.drop site.host, left) ∧
      pool.running = false ∧ pool.phases = []
  released : ∀ receiver, server.queue = some receiver → untouched receiver.path →
    IsReleased (receiver.drop site.host) receiver.path
  /-- After it is stopped or dropped, what is sent to its path and taken has come to a server that runs. -/
  cleared : ∀ receiver next later left, server.queue = some receiver → untouched receiver.path →
    server.stop (handlers i) site.host site.state = (next, later, left) →
    ∀ servers, servers = site.servers.insert i next ∨ servers = site.servers.erase i →
    ∀ last, Run untouched handlers ⟨later, servers, left⟩ last →
    ∀ message reached, Queue.Sender.deliver last.host receiver.path message = .ok reached →
      ∃ j other, Runs last.servers j other ∧
        last.host.store.node true receiver.path = .ok (.socket other.socket)

theorem Kept.governs (h : Kept untouched site) (hserver : site.servers.get? i = some server) :
    Governs untouched handlers site i server where
  flag := h.flag hserver
  bound huntouched := by
    constructor
    · intro hrunning
      obtain ⟨receiver, hqueue⟩ := Option.isSome_iff_exists.1 hrunning
      have hi : Runs site.servers i receiver := ⟨server, hserver, hqueue⟩
      obtain ⟨queued, hserves⟩ := h.live hi
      obtain ⟨place, hlookup⟩ := h.home hi (huntouched receiver hqueue)
      exact ⟨receiver, place, hqueue, hserves.isLive, hlookup⟩
    · rintro ⟨receiver, -, hqueue, -⟩
      rw [Server.isRunning, hqueue, Option.isSome_some]
  alone receiver hqueue huntouched j other hj hpath := by
    have hi : Runs site.servers i receiver := ⟨server, hserver, hqueue⟩
    obtain rfl := h.eq_of_path hi hj huntouched hpath
    exact h.alone hj hi
  again hrunning := Server.start_of_running hrunning site.host
  starts hstopped := Server.starts h.sound (Server.queue_eq_none hstopped)
  idle hstopped := Server.stop_of_stopped (handlers i) site.host site.state (Server.queue_eq_none hstopped)
    ((h.flag hserver).trans hstopped)
  stops receiver hqueue := by
    obtain ⟨pool, left, hstop, hflag, hphases, -⟩ :=
      Server.stop_of_running (handlers i) site.host site.state hqueue
    exact ⟨Queue.Receiver.spares_drop h.sound.tree receiver, pool, left, hstop, hflag, hphases⟩
  released receiver hqueue huntouched := by
    have hi : Runs site.servers i receiver := ⟨server, hserver, hqueue⟩
    obtain ⟨place, hvacancy⟩ := h.vacancy hi huntouched
    refine isReleased_of_vacancy ((h.parents hi huntouched).of_leads ?_) hvacancy
    exact (Queue.Receiver.spares_drop h.sound.tree receiver).leads
  cleared receiver next later left hqueue huntouched hstop servers hservers last hrun message reached
      hsend := by
    obtain ⟨hinserted, herased⟩ := h.stop hserver hstop
    obtain ⟨pool, ended, hstopped, -⟩ := Server.stop_of_running (handlers i) site.host site.state hqueue
    obtain rfl : later = receiver.drop site.host :=
      congrArg (fun outcome => outcome.2.1) (hstop.symm.trans hstopped)
    obtain ⟨place, hvacancy⟩ := h.vacancy ⟨server, hserver, hqueue⟩ huntouched
    have hkept : Kept untouched ⟨receiver.drop site.host, servers, left⟩ := by
      rcases hservers with rfl | rfl
      · exact hinserted
      · exact herased
    have hcleared : Cleared ⟨receiver.drop site.host, servers, left⟩ receiver.path := .of_vacancy hvacancy
    exact (hcleared.run hkept huntouched hrun).of_deliver hsend

/-- However servers are started, stopped and dropped, and whatever their workers, senders and others do in
between that leaves the paths of their queues alone: a server runs exactly while its queue is bound and
stands at its path. A start changes nothing for a server that runs, and nothing but directories if it
fails. A stop changes nothing for a server that does not run, and releases the path of one that does, so
that nothing is sent there until a server binds it again. No tally is ever set back. -/
theorem servers_hold_their_queues_while_they_run (hsound : first.host.IsSound)
    (hfresh : ∀ i server, first.servers.get? i = some server →
      server.queue = none ∧ server.pool.running = false)
    (hrun : Run untouched handlers first site) :
    (∀ i server, site.servers.get? i = some server → Governs untouched handlers site i server) ∧
      ∀ later, Run untouched handlers site later → Becomes site.servers later.servers := by
  have hkept := (Kept.of_fresh hsound hfresh).run hrun
  exact ⟨fun i server hserver => hkept.governs hserver, fun later hlater => hlater.becomes⟩

/-- Of two servers for one queue the second is refused while the first one runs, and started after that. -/
theorem second_server_waits_for_its_queue :
    let server : Server :=
      { address := "/b", access := .standard, config := { workers := 0, pollInterval := ⟨0⟩ } }
    let receiver : Queue.Receiver := ⟨"/b", "/b", 262144, 0⟩
    let handlers : Nat → Handler Unit := fun _ _ _ => (.accepted, ())
    let fresh : Site Unit := ⟨.isolated, (Table.empty.insert 0 server).insert 1 server, ()⟩
    let bound : Host := { Host.isolated.setEndpoint 0 { access := .standard } with
      store := Store.initial.setNode ["b"] (.socket 0), nextEndpoint := 1 }
    let site : Site Unit := ⟨bound, (fresh.servers.insert 0 (server.started receiver)).insert 1 server, ()⟩
    fresh.host.IsSound ∧
      (∀ i server, fresh.servers.get? i = some server → server.queue = none ∧ server.pool.running = false) ∧
      Run (fun _ => True) handlers fresh site ∧
      Governs (fun _ => True) handlers site 0 (server.started receiver) ∧
      Governs (fun _ => True) handlers site 1 server ∧
      ∃ later next, server.start (receiver.drop bound) = (.ok (), later, next) := by
  intro server receiver handlers fresh bound site
  have hfresh (i : Nat) (found : Server) (hfound : fresh.servers.get? i = some found) :
      found.queue = none ∧ found.pool.running = false := by
    obtain rfl : server = found := by
      simp only [fresh, Table.get?_insert, Table.get?_empty] at hfound
      grind
    exact ⟨rfl, rfl⟩
  have hfirst : server.start .isolated = (.ok (), bound, server.started receiver) := by
    simp only [server, receiver, bound]
    cbv
  have hsecond : server.start bound = (.error (.transport (.bind "/b"
      (.described .addrInUse "queue is already bound by a live receiver"))), bound, server) := by
    simp only [server, bound]
    cbv
  have hrun : Run (fun _ => True) handlers fresh site :=
    .step (.step .refl (.start (Table.get?_insert_of_ne _ _ (by decide)) hfirst))
      (.start rfl hsecond)
  obtain ⟨hgoverns, -⟩ := servers_hold_their_queues_while_they_run Host.isSound_isolated hfresh hrun
  have hzero := hgoverns 0 (server.started receiver) rfl
  have hone := hgoverns 1 server rfl
  have hkept : Kept (fun _ => True) site := (Kept.of_fresh Host.isSound_isolated hfresh).run hrun
  have htree := (Queue.Receiver.isSound_drop hkept.sound receiver).tree
  have hname : Queue.resolveName (receiver.drop bound).queueDirectory server.address = .ok receiver.path := by
    simp only [server, receiver]
    cbv
  have hreleased := hzero.released receiver rfl trivial
  exact ⟨Host.isSound_isolated, hfresh, hrun, hzero, hone,
    (Server.start_ok_iff rfl htree).2 ⟨receiver.path, hname, by decide, hreleased.free⟩⟩

end Site

end Reception

end Courier
