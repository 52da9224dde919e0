import Courier.Proofs.Reception.Starting
import Courier.Proofs.Reception.Teardown

/-! # Servers on one host

Servers are started, stopped and dropped in any order, while their workers work, messages are sent, and
others do to the host what they like. Each server that runs has a receiver, so what is known of receivers
(`Queue.Holdings.Kept`) is known of servers (`Site.Kept`).
-/

namespace Courier

namespace Reception

variable {σ : Type}

namespace Server

variable {host later : Host} {server : Server} {receiver : Queue.Receiver}

/-- A server that does not run is started exactly if its address stands for a path that is short enough and
free. -/
theorem start_ok_iff (hqueue : server.queue = none) (htree : host.store.IsTree) :
    (∃ later next, server.start host = (.ok (), later, next)) ↔
      ∃ path, Queue.resolveName host.queueDirectory server.address = .ok path ∧
        path.utf8ByteSize < Host.socketPathLimit ∧ host.IsFree path := by
  rw [← Queue.Receiver.bind_ok_iff htree server.address server.config.capacity server.access]
  rcases hstart : server.start host with ⟨outcome, later, next⟩
  rcases start_cases hstart with
    ⟨hrunning, -⟩ | ⟨-, error, cause, rfl, rfl, hbind⟩ | ⟨-, receiver, rfl, rfl, hbind⟩
  · simp [isRunning, hqueue] at hrunning
  · simp [hbind]
  · simp [hbind]

end Server

structure Site (σ : Type) where
  host : Host
  servers : Table Nat Server
  state : σ

namespace Site

def Runs (servers : Table Nat Server) (i : Nat) (receiver : Queue.Receiver) : Prop :=
  ∃ server, servers.get? i = some server ∧ server.queue = some receiver

/-- What others can do to a host: anything that ends no live receiver and revives no dead one, leaves a tree,
keeps the number of the next socket unused, and changes neither where some paths lead nor the directories
above them. -/
structure Meddles (untouched : String → Prop) (site : Site σ) (later : Host) : Prop where
  sound : later.IsSound
  live : ∀ {i : Nat} {receiver : Queue.Receiver}, Runs site.servers i receiver →
    ∃ queued, later.Serves receiver.socket queued
  dead : ∀ {id : Nat}, id < site.host.nextEndpoint → site.host.isLive id = false → later.isLive id = false
  find : ∀ {path : String}, untouched path →
    later.store.find .entry path = site.host.store.find .entry path
  parents : ∀ {path : String}, untouched path → site.host.store.HasParents path → later.store.HasParents path

inductive Step (untouched : String → Prop) (handlers : Nat → Handler σ) (site : Site σ) : Site σ → Prop
  | start {i : Nat} {server next : Server} {outcome : Except Error Unit} {later : Host}
      (hserver : site.servers.get? i = some server)
      (hstart : server.start site.host = (outcome, later, next)) :
      Step untouched handlers site ⟨later, site.servers.insert i next, site.state⟩
  | stop {i : Nat} {server next : Server} {later : Host} {left : σ}
      (hserver : site.servers.get? i = some server)
      (hstop : server.stop (handlers i) site.host site.state = (next, later, left)) :
      Step untouched handlers site ⟨later, site.servers.insert i next, left⟩
  /-- A server that is dropped is stopped, and is no more. -/
  | drop {i : Nat} {server next : Server} {later : Host} {left : σ}
      (hserver : site.servers.get? i = some server)
      (hstop : server.stop (handlers i) site.host site.state = (next, later, left)) :
      Step untouched handlers site ⟨later, site.servers.erase i, left⟩
  | work {i : Nat} {server : Server} {receiver : Queue.Receiver} {pool : Pool} {later : Host} {left : σ}
      (worker : Nat) (hserver : site.servers.get? i = some server) (hqueue : server.queue = some receiver)
      (hwork : server.pool.step (handlers i) receiver worker site.host site.state = (pool, later, left)) :
      Step untouched handlers site ⟨later, site.servers.insert i { server with pool }, left⟩
  | send {path : String} {message : Bytes} {later : Host}
      (hsend : Queue.Sender.deliver site.host path message = .ok later) :
      Step untouched handlers site ⟨later, site.servers, site.state⟩
  | meddle {later : Host} (hmeddles : site.Meddles untouched later) :
      Step untouched handlers site ⟨later, site.servers, site.state⟩

inductive Run (untouched : String → Prop) (handlers : Nat → Handler σ) (first : Site σ) : Site σ → Prop
  | refl : Run untouched handlers first first
  | step {site next : Site σ} (hrun : Run untouched handlers first site)
      (hstep : Step untouched handlers site next) : Run untouched handlers first next

variable {untouched : String → Prop} {handlers : Nat → Handler σ} {first site next : Site σ}
  {servers : Table Nat Server} {server : Server} {receiver other : Queue.Receiver} {i j socket : Nat}
  {host later : Host} {left : σ} {path : String}

theorem runs_insert : Runs (servers.insert i server) j receiver ↔
    if j = i then server.queue = some receiver else Runs servers j receiver := by
  rw [Runs, Table.get?_insert]
  by_cases h : j = i
  · simp [h]
  · simp [h, Runs]

theorem runs_erase : Runs (servers.erase i) j receiver ↔ j ≠ i ∧ Runs servers j receiver := by
  rw [Runs, Table.get?_erase]
  by_cases h : j = i
  · simp [h]
  · simp [h, Runs]

theorem runs_insert_self (hserver : servers.get? i = some server) (next : Server)
    (hqueue : next.queue = server.queue) :
    Runs (servers.insert i next) j receiver ↔ Runs servers j receiver := by
  rw [runs_insert]
  by_cases h : j = i
  · simp [h, Runs, hserver, hqueue]
  · rw [if_neg h]

theorem Runs.eq (h : Runs servers i receiver) (hother : Runs servers i other) : receiver = other := by
  obtain ⟨server, hserver, hqueue⟩ := h
  obtain ⟨same, hsame, hqueue'⟩ := hother
  obtain rfl : server = same := Option.some.inj (hserver.symm.trans hsame)
  exact Option.some.inj (hqueue.symm.trans hqueue')

theorem not_runs (hserver : servers.get? i = some server) (hqueue : server.queue = none)
    (receiver : Queue.Receiver) : ¬ Runs servers i receiver := by
  rintro ⟨same, hsame, hother⟩
  obtain rfl : server = same := Option.some.inj (hserver.symm.trans hsame)
  rw [hqueue] at hother
  cases hother

theorem runs_insert_of_none (hqueue : server.queue = none) :
    Runs (servers.insert i server) j receiver ↔ j ≠ i ∧ Runs servers j receiver := by
  rw [runs_insert]
  by_cases h : j = i <;> simp [h, hqueue]

theorem runs_erase_of_not_runs (hstopped : ∀ receiver, ¬ Runs servers i receiver) :
    Runs (servers.erase i) j receiver ↔ Runs servers j receiver := by
  rw [runs_erase, and_iff_right_iff_imp]
  rintro h rfl
  exact hstopped receiver h

structure Kept (untouched : String → Prop) (site : Site σ) : Prop where
  receivers : ∃ receivers, Queue.Holdings.Kept untouched ⟨site.host, receivers⟩ ∧
    ∀ receiver, receiver ∈ receivers ↔ ∃ i, Runs site.servers i receiver
  alone : ∀ {i j : Nat} {receiver : Queue.Receiver}, Runs site.servers i receiver →
    Runs site.servers j receiver → i = j
  parents : ∀ {i : Nat} {receiver : Queue.Receiver}, Runs site.servers i receiver → untouched receiver.path →
    site.host.store.HasParents receiver.path
  flag : ∀ {i : Nat} {server : Server}, site.servers.get? i = some server →
    server.pool.running = server.isRunning

namespace Kept

theorem sound (h : Kept untouched site) : site.host.IsSound := by
  obtain ⟨receivers, hkept, -⟩ := h.receivers
  exact hkept.sound

theorem live (h : Kept untouched site) (hruns : Runs site.servers i receiver) :
    ∃ queued, site.host.Serves receiver.socket queued := by
  obtain ⟨receivers, hkept, hmem⟩ := h.receivers
  exact hkept.live receiver ((hmem receiver).2 ⟨i, hruns⟩)

theorem home (h : Kept untouched site) (hruns : Runs site.servers i receiver)
    (huntouched : untouched receiver.path) :
    ∃ place, site.host.store.lookup .entry receiver.path = .ok (place, .socket receiver.socket) := by
  obtain ⟨receivers, hkept, hmem⟩ := h.receivers
  exact hkept.home receiver ((hmem receiver).2 ⟨i, hruns⟩) huntouched

theorem eq_of_path (h : Kept untouched site) (hi : Runs site.servers i receiver)
    (hj : Runs site.servers j other)
    (huntouched : untouched receiver.path) (hpath : other.path = receiver.path) : other = receiver := by
  obtain ⟨receivers, hkept, hmem⟩ := h.receivers
  have howns := hkept.owns ((hmem receiver).2 ⟨i, hi⟩) huntouched
  exact howns.alone other ((hmem other).2 ⟨j, hj⟩) hpath

theorem stopped (h : Kept untouched site) (hserver : site.servers.get? i = some server)
    (hqueue : server.queue = none) : server.pool.running = false := by
  rw [h.flag hserver, Server.isRunning, hqueue]
  rfl

/-- A change to the host that keeps what is known of receivers, while the same servers run. -/
theorem change (h : Kept untouched site) {servers : Table Nat Server}
    (hruns : ∀ j other, Runs servers j other ↔ Runs site.servers j other)
    (hkept : ∀ receivers, Queue.Holdings.Kept untouched ⟨site.host, receivers⟩ →
      (∀ receiver, receiver ∈ receivers ↔ ∃ i, Runs site.servers i receiver) →
      Queue.Holdings.Kept untouched ⟨later, receivers⟩)
    (hparents : ∀ path, untouched path → site.host.store.HasParents path → later.store.HasParents path)
    (hflag : ∀ i server, servers.get? i = some server → server.pool.running = server.isRunning) (left : σ) :
    Kept untouched ⟨later, servers, left⟩ := by
  obtain ⟨receivers, hholdings, hmem⟩ := h.receivers
  refine ⟨⟨receivers, hkept receivers hholdings hmem, fun receiver => ?_⟩, fun hi hj => ?_,
    fun hi huntouched => ?_, fun hserver => hflag _ _ hserver⟩
  · simp only [hruns]
    exact hmem receiver
  · exact h.alone ((hruns _ _).1 hi) ((hruns _ _).1 hj)
  · exact hparents _ huntouched (h.parents ((hruns _ _).1 hi) huntouched)

theorem flag_insert (h : Kept untouched site) (next : Server) (hnext : next.pool.running = next.isRunning) :
    ∀ j server, (site.servers.insert i next).get? j = some server →
      server.pool.running = server.isRunning := by
  intro j server hserver
  by_cases hsame : j = i
  · subst hsame
    obtain rfl : next = server := by simpa using hserver
    exact hnext
  · rw [Table.get?_insert_of_ne _ _ hsame] at hserver
    exact h.flag hserver

theorem flag_erase (h : Kept untouched site) : ∀ j server, (site.servers.erase i).get? j = some server →
    server.pool.running = server.isRunning := by
  intro j server hserver
  by_cases hsame : j = i
  · simp [hsame] at hserver
  · rw [Table.get?_erase_of_ne _ hsame] at hserver
    exact h.flag hserver

/-- What changes at one live socket alone is nothing to the others. -/
theorem busy (h : Kept untouched site) {servers : Table Nat Server}
    (hruns : ∀ j other, Runs servers j other ↔ Runs site.servers j other)
    (hsame : site.host.SameBut socket later) (hlive : site.host.isLive socket = true)
    (hserves : ∀ queued, site.host.Serves socket queued → ∃ queued, later.Serves socket queued)
    (hflag : ∀ i server, servers.get? i = some server → server.pool.running = server.isRunning) (left : σ) :
    Kept untouched ⟨later, servers, left⟩ := by
  have hstore := hsame.store
  have hnext : later.nextEndpoint = site.host.nextEndpoint := by rw [hsame.rest]
  refine h.change hruns (fun receivers hkept hmem => hkept.meddle ⟨⟨?_, ?_, ?_⟩, ?_, ?_⟩)
    (fun path _ hparents => hstore ▸ hparents) hflag left
  · rw [hstore]
    exact h.sound.tree
  · intro id hbeyond
    have hne : id ≠ socket :=
      Nat.ne_of_gt (Nat.lt_of_lt_of_le (h.sound.lt_nextEndpoint hlive) (hnext ▸ hbeyond))
    rw [hsame.endpoints hne, h.sound.endpoint (hnext ▸ hbeyond)]
  · intro place id hentry
    rw [hnext]
    exact h.sound.entry (hstore ▸ hentry)
  · intro receiver hreceiver
    obtain ⟨queued, hold⟩ := hkept.live receiver hreceiver
    by_cases hsocket : receiver.socket = socket
    · rw [hsocket] at hold ⊢
      exact hserves queued hold
    · exact ⟨queued, hsame.serves hsocket hold⟩
  · intro path _
    rw [hstore]

theorem giveUp (h : Kept untouched site) {servers : Table Nat Server} (hruns : Runs site.servers i receiver)
    (hrest : ∀ j other, Runs servers j other ↔ j ≠ i ∧ Runs site.servers j other)
    (hflag : ∀ i server, servers.get? i = some server → server.pool.running = server.isRunning) (left : σ) :
    Kept untouched ⟨receiver.drop site.host, servers, left⟩ := by
  obtain ⟨receivers, hkept, hmem⟩ := h.receivers
  refine ⟨⟨receivers.erase receiver, hkept.drop ((hmem receiver).2 ⟨i, hruns⟩), fun other => ?_⟩,
    fun hi hj => ?_, fun hi huntouched => ?_, fun hserver => hflag _ _ hserver⟩
  · rw [hkept.distinct.of_map.mem_erase_iff, hmem]
    simp only [hrest]
    constructor
    · rintro ⟨hne, j, hj⟩
      refine ⟨j, ?_, hj⟩
      rintro rfl
      exact hne (hj.eq hruns)
    · rintro ⟨j, hne, hj⟩
      refine ⟨?_, j, hj⟩
      rintro rfl
      exact hne (h.alone hj hruns)
  · exact h.alone ((hrest _ _).1 hi).2 ((hrest _ _).1 hj).2
  · refine (h.parents ((hrest _ _).1 hi).2 huntouched).of_leads ?_
    exact (Queue.Receiver.spares_drop h.sound.tree receiver).leads

theorem start (h : Kept untouched site) (hserver : site.servers.get? i = some server)
    {outcome : Except Error Unit} {next : Server} (hstart : server.start site.host = (outcome, later, next)) :
    Kept untouched ⟨later, site.servers.insert i next, site.state⟩ := by
  rcases Server.start_cases hstart with
    ⟨-, -, rfl, rfl⟩ | ⟨-, error, cause, -, rfl, hbind⟩ | ⟨hqueue, receiver, -, rfl, hbind⟩
  · exact h.change (fun j other => runs_insert_self hserver next rfl) (fun _ hkept _ => hkept)
      (fun _ _ hparents => hparents) (h.flag_insert next (h.flag hserver)) site.state
  · have hleads := (Queue.Holdings.spares_bind h.sound hbind).leads
    exact h.change (fun j other => runs_insert_self hserver next rfl) (fun _ hkept _ => hkept.refuse hbind)
      (fun _ _ hparents => hparents.of_leads hleads) (h.flag_insert next (h.flag hserver)) site.state
  · obtain ⟨receivers, hkept, hmem⟩ := h.receivers
    have hbound := hkept.bind hbind
    -- the socket of a new receiver is new, so that no server ran with it before
    have hnew (j : Nat) : ¬ Runs site.servers j receiver := fun hj =>
      (List.nodup_cons.1 hbound.distinct.of_map).1 ((hmem receiver).2 ⟨j, hj⟩)
    have hruns (j : Nat) (other : Queue.Receiver) :
        Runs (site.servers.insert i (server.started receiver)) j other ↔
          (j = i ∧ other = receiver) ∨ Runs site.servers j other := by
      rw [runs_insert]
      by_cases hj : j = i
      · subst hj
        simp only [Server.started, if_true, Option.some.injEq, true_and, not_runs hserver hqueue other,
          or_false]
        exact eq_comm
      · simp [hj]
    refine ⟨⟨receiver :: receivers, hbound, fun other => ?_⟩, fun hi hj => ?_, fun hi huntouched => ?_,
      fun hlater => h.flag_insert (server.started receiver) rfl _ _ hlater⟩
    · simp only [hruns, List.mem_cons, hmem, exists_or, exists_eq_left]
    · rcases (hruns _ _).1 hi with ⟨rfl, rfl⟩ | hi' <;> rcases (hruns _ _).1 hj with ⟨rfl, heq⟩ | hj'
      · rfl
      · exact absurd hj' (hnew _)
      · exact absurd (heq ▸ hi') (hnew _)
      · exact h.alone hi' hj'
    · rcases (hruns _ _).1 hi with ⟨rfl, rfl⟩ | hi'
      · exact Queue.Receiver.hasParents_of_bind h.sound hbind
      · exact (h.parents hi' huntouched).of_leads (Queue.Holdings.spares_bind h.sound hbind).leads

theorem stop (h : Kept untouched site) {handler : Handler σ} (hserver : site.servers.get? i = some server)
    {next : Server} (hstop : server.stop handler site.host site.state = (next, later, left)) :
    Kept untouched ⟨later, site.servers.insert i next, left⟩ ∧
      Kept untouched ⟨later, site.servers.erase i, left⟩ := by
  rcases Server.stop_cases (h.stopped hserver) hstop with
    ⟨hqueue, rfl, rfl, rfl⟩ | ⟨receiver, pool, hqueue, rfl, rfl, hflag⟩
  · refine ⟨h.change (fun j other => runs_insert_self hserver next rfl) (fun _ hkept _ => hkept)
      (fun _ _ hparents => hparents) (h.flag_insert next (h.flag hserver)) site.state,
      h.change (fun j other => ?_) (fun _ hkept _ => hkept) (fun _ _ hparents => hparents) h.flag_erase
        site.state⟩
    exact runs_erase_of_not_runs (not_runs hserver hqueue)
  · have hruns : Runs site.servers i receiver := ⟨server, hserver, hqueue⟩
    exact ⟨h.giveUp hruns (fun j other => runs_insert_of_none rfl)
      (h.flag_insert { server with queue := none, pool } hflag) left,
      h.giveUp hruns (fun j other => runs_erase) h.flag_erase left⟩

theorem work (h : Kept untouched site) {handler : Handler σ} (hserver : site.servers.get? i = some server)
    (hqueue : server.queue = some receiver) {pool : Pool} {worker : Nat}
    (hwork : server.pool.step handler receiver worker site.host site.state = (pool, later, left)) :
    Kept untouched ⟨later, site.servers.insert i { server with pool }, left⟩ := by
  obtain ⟨queued, hserves⟩ := h.live ⟨server, hserver, hqueue⟩
  have hgoes := Pool.goes_step handler receiver worker server.pool site.host site.state
  rw [hwork] at hgoes
  have hflag : pool.running = ({ server with pool } : Server).isRunning :=
    hgoes.running.trans (h.flag hserver)
  refine h.busy (fun j other => runs_insert_self hserver { server with pool } rfl) hgoes.host hserves.isLive
    (fun queued hold => ?_) (h.flag_insert { server with pool } hflag) left
  have hstill := Pool.serves_step handler receiver worker server.pool site.host site.state hold
  rwa [hwork] at hstill

theorem send (h : Kept untouched site) {message : Bytes}
    (hsend : Queue.Sender.deliver site.host path message = .ok later) :
    Kept untouched ⟨later, site.servers, site.state⟩ := by
  obtain ⟨id, endpoint, -, hendpoint, hlive, -, -, rfl⟩ := Queue.Sender.of_deliver hsend
  refine h.busy (fun _ _ => Iff.rfl) (site.host.sameBut_setEndpoint id _) ?_ (fun queued hserves => ?_)
    (fun _ _ hserver => h.flag hserver) site.state
  · simp [Host.isLive, hendpoint, hlive]
  · obtain ⟨access, hold⟩ := hserves
    obtain rfl : endpoint = { access, queue := queued } := Option.some.inj (hendpoint.symm.trans hold)
    exact ⟨queued ++ [message], site.host.serves_setEndpoint id access _⟩

theorem meddle (h : Kept untouched site) (hmeddles : site.Meddles untouched later) :
    Kept untouched ⟨later, site.servers, site.state⟩ := by
  refine h.change (fun _ _ => Iff.rfl) (fun receivers hkept hmem => hkept.meddle ⟨hmeddles.sound, ?_, ?_⟩)
    (fun path huntouched => hmeddles.parents huntouched) (fun _ _ hserver => h.flag hserver) site.state
  · intro receiver hreceiver
    obtain ⟨i, hruns⟩ := (hmem receiver).1 hreceiver
    exact hmeddles.live hruns
  · intro path huntouched
    rw [Store.lookup, Store.lookup, hmeddles.find huntouched]

theorem step (h : Kept untouched site) (hstep : Step untouched handlers site next) : Kept untouched next := by
  cases hstep with
  | start hserver hstart => exact h.start hserver hstart
  | stop hserver hstop => exact (h.stop hserver hstop).1
  | drop hserver hstop => exact (h.stop hserver hstop).2
  | work worker hserver hqueue hwork => exact h.work hserver hqueue hwork
  | send hsend => exact h.send hsend
  | meddle hmeddles => exact h.meddle hmeddles

theorem run (h : Kept untouched first) (hrun : Run untouched handlers first site) : Kept untouched site := by
  induction hrun with
  | refl => exact h
  | step hrun hstep ih => exact ih.step hstep

end Kept

end Site

end Reception

end Courier
