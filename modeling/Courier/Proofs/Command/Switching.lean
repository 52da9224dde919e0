import Courier.Proofs.Command.Log

/-! # Processors that are switched while commands are routed

Programs that run on threads are turns on a board, where nothing is known of programs: what a thread does in
one step is done there in two turns at most (`Board.Mirrors`). So what holds of every board holds of them.
-/

namespace Courier.Command

open scoped List

namespace Board

variable {P : Type} {board : Board P}

def Runs (board : Board P) : Prop := ∀ call ∈ board.calls, call.phase.isClosed = false → call.phase = .running

theorem Runs.of_innermost? (h : Runs board) {thread number : Nat}
    (hinnermost : board.innermost? thread = some number) :
    ∃ call, board.calls[number]? = some call ∧ call.thread = thread ∧ call.phase = .running := by
  obtain ⟨call, hcall, hpending⟩ := pending_of_innermost? hinnermost
  rw [Call.isPending, Bool.and_eq_true, beq_iff_eq, Bool.not_eq_true'] at hpending
  exact ⟨call, hcall, hpending.1, h call (List.mem_of_getElem? hcall) hpending.2⟩

theorem Runs.isFree (h : Runs board) (thread : Nat) : board.isFree thread = true := by
  rw [Board.isFree]
  split
  · rfl
  · rename_i number hinnermost
    obtain ⟨call, hcall, -, hphase⟩ := h.of_innermost? hinnermost
    simp [hcall, hphase]

end Board

namespace Thread

def guards : Thread → List Processor
  | .running _ sections callers => (sections ++ callers.flatMap Caller.sections).map Scoped.previous
  | .finished _ => []

def depth : Thread → Nat
  | .running _ _ callers => callers.length
  | .finished _ => 0

end Thread

namespace Board

def Event.uses : Event Processor → List Command.Event
  | .replaced _ _ installed (.ok displaced) => [.replaced installed displaced]
  | .asked _ _ peer command (.ok processor) => [.called processor peer command]
  | _ => []

/-- Whether threads that run programs have come to what is on a board. -/
structure Mirrors (start : Router) (system : Threads) (board : Board Processor) : Prop where
  lock : board.lock = system.router.lock
  history : system.router.history = start.history ++ board.log.flatMap Event.uses
  guards : board.guards ~ system.threads.flatMap Thread.guards
  runs : board.Runs
  depth : ∀ thread, board.calls.countP (·.isPending thread) = (system.threads[thread]?).elim 0 Thread.depth

namespace Mirrors

variable {start router : Router} {threads : List Thread} {board : Board Processor} {index : Nat}
  {thread : Thread}

theorem moved (h : Mirrors start ⟨threads, router⟩ board) (hthread : threads[index]? = some thread)
    {thread' : Thread} {router' : Router} {board' : Board Processor} {events : List (Event Processor)}
    (hlock : board'.lock = router'.lock) (hlog : board'.log = board.log ++ events)
    (hhistory : router'.history = router.history ++ events.flatMap Event.uses)
    (hguards : board'.guards ++ thread.guards ~ board.guards ++ thread'.guards) (hruns : board'.Runs)
    (hdepth : ∀ other, board'.calls.countP (·.isPending other) + (if other = index then thread.depth else 0)
      = board.calls.countP (·.isPending other) + (if other = index then thread'.depth else 0)) :
    Mirrors start ⟨threads.set index thread', router'⟩ board' := by
  obtain ⟨hindex, rfl⟩ := List.getElem?_eq_some_iff.1 hthread
  refine ⟨hlock, ?_, ?_, hruns, fun other => ?_⟩
  · rw [hhistory, h.history, hlog, List.flatMap_append, List.append_assoc]
  · have hbefore := (List.getElem_cons_eraseIdx_perm hindex).symm.flatMap_right Thread.guards
    have hafter := (List.set_perm_cons_eraseIdx hindex thread').flatMap_right Thread.guards
    rw [List.flatMap_cons] at hbefore hafter
    refine (List.perm_append_right_iff threads[index].guards).1 ?_
    calc board'.guards ++ threads[index].guards
      _ ~ board.guards ++ thread'.guards := hguards
      _ ~ threads[index].guards ++ (threads.eraseIdx index).flatMap Thread.guards ++ thread'.guards :=
        (h.guards.trans hbefore).append_right _
      _ ~ thread'.guards ++ (threads.eraseIdx index).flatMap Thread.guards ++ threads[index].guards := by
        rw [List.append_assoc]
        exact List.perm_append_comm.trans (List.perm_append_comm.append_right _)
      _ ~ (threads.set index thread').flatMap Thread.guards ++ threads[index].guards :=
        hafter.symm.append_right _
  · have hchange := hdepth other
    rw [h.depth] at hchange
    by_cases hother : other = index
    · subst hother
      simp [hindex] at hchange ⊢
      omega
    · simpa [hother, Ne.symm hother] using hchange

/-- A processor is put behind the lock, and a guard added or dropped with it or not. -/
theorem swapped (h : Mirrors start ⟨threads, router⟩ board) (hthread : threads[index]? = some thread)
    (thread' : Thread) (hdepth : thread'.depth = thread.depth) (cause : Cause) (processor : Processor)
    {guards : List Processor} (hguards : guards ++ thread.guards ~ board.guards ++ thread'.guards) :
    Mirrors start ⟨threads.set index thread', router.install processor⟩ { board with
      lock := ⟨processor, false⟩
      guards
      log := board.log ++ [.replaced index cause processor (.ok router.current)] } := by
  refine h.moved hthread rfl rfl rfl hguards h.runs fun other => ?_
  rw [hdepth]

variable {program next : Program} {sections : List Scoped} {callers : List Caller}

/-- What a thread does on its own is no turn. -/
theorem alone (h : Mirrors start ⟨threads, router⟩ board) (hthread : threads[index]? = some thread)
    {thread' : Thread} (hguards : thread'.guards = thread.guards) (hdepth : thread'.depth = thread.depth) :
    ∃ turns, Mirrors start ⟨threads.set index thread', router⟩ (board.run turns) := by
  have hlog : board.log = board.log ++ [] := (List.append_nil _).symm
  refine ⟨[], h.moved hthread h.lock hlog (List.append_nil _).symm ?_ h.runs fun other => ?_⟩
  · rw [hguards]
    exact .refl _
  · rw [hdepth]
    rfl

theorem install (h : Mirrors start ⟨threads, router⟩ board)
    (hthread : threads[index]? = some (.running program sections callers)) (processor : Processor) :
    ∃ turns, Mirrors start ⟨threads.set index (.running next sections callers), router.install processor⟩
      (board.run turns) := by
  refine ⟨[⟨index, false, .use (.replace processor)⟩], ?_⟩
  rw [run_use (h.runs.isFree index), perform, swap, h.lock, Router.replace_lock]
  exact h.swapped hthread (.running next sections callers) rfl .replace processor (.refl _)

theorem enter (h : Mirrors start ⟨threads, router⟩ board)
    (hthread : threads[index]? = some (.running program sections callers)) (processor : Processor) :
    ∃ turns, Mirrors start
      ⟨threads.set index (.running next ((Scoped.enter router processor).1 :: sections) callers),
        (Scoped.enter router processor).2⟩ (board.run turns) := by
  refine ⟨[⟨index, false, .use (.enter processor)⟩], ?_⟩
  rw [run_use (h.runs.isFree index), perform, swap, h.lock, Router.replace_lock]
  refine h.swapped hthread (.running next (⟨router.current⟩ :: sections) callers) rfl .enter processor ?_
  rw [List.append_assoc]
  exact .refl _

theorem leave {opened : Scoped} (h : Mirrors start ⟨threads, router⟩ board)
    (hthread : threads[index]? = some (.running program (opened :: sections) callers)) (unwinding : Bool) :
    ∃ turns, Mirrors start ⟨threads.set index (.running next sections callers), opened.leave router⟩
      (board.run turns) := by
  have hkept : opened.previous ∈ board.guards := by
    refine h.guards.mem_iff.2 (List.mem_flatMap.2 ⟨_, List.mem_of_getElem? hthread, ?_⟩)
    simp [Thread.guards]
  obtain ⟨position, hposition, hprevious⟩ := List.getElem_of_mem hkept
  refine ⟨[⟨index, unwinding, .use (.leave position)⟩], ?_⟩
  rw [run_use (h.runs.isFree index), perform, List.getElem?_eq_getElem hposition, hprevious]
  simp only [swap, h.lock, Router.replace_lock]
  refine h.swapped hthread (.running next sections callers) rfl .leave opened.previous ?_
  have hdropped := List.getElem_cons_eraseIdx_perm hposition
  rw [hprevious] at hdropped
  exact List.perm_middle.trans (hdropped.append_right _)

theorem route (h : Mirrors start ⟨threads, router⟩ board)
    (hthread : threads[index]? = some (.running program sections callers)) (peer command : String)
    (answer : Bool → Program) :
    ∃ turns, Mirrors start
      ⟨threads.set index (.running (router.call peer command).1 [] (⟨answer, sections⟩ :: callers)),
        (router.call peer command).2⟩ (board.run turns) := by
  have hread : board.lock.current = .ok router.current := h.lock ▸ router.current_lock
  refine ⟨[⟨index, false, .use (.route peer command)⟩, ⟨index, false, .proceed⟩], ?_⟩
  rw [run_route (h.runs.isFree index) hread]
  refine h.moved hthread h.lock rfl rfl ?_ ?_ fun other => ?_
  · exact .refl _
  · intro call hcall
    rcases List.mem_append.1 hcall with hold | hnew
    · exact h.runs call hold
    · obtain rfl := List.mem_singleton.1 hnew
      exact fun _ => rfl
  · by_cases hother : other = index
    · subst hother
      simp [Thread.depth, Call.isPending, Phase.isClosed]
      omega
    · simp [hother, Ne.symm hother, Call.isPending]

theorem finish {caller : Caller} (h : Mirrors start ⟨threads, router⟩ board)
    (hthread : threads[index]? = some (.running program [] (caller :: callers))) (outcome : Outcome) :
    ∃ turns, Mirrors start ⟨threads.set index (.running next caller.sections callers), router⟩
      (board.run turns) := by
  have hdepth : 0 < board.calls.countP (·.isPending index) := by
    rw [h.depth, hthread]
    exact Nat.succ_pos _
  obtain ⟨number, hinnermost⟩ := exists_innermost? hdepth
  obtain ⟨call, hcall, rfl, hphase⟩ := h.runs.of_innermost? hinnermost
  have hrun := run_finish hinnermost hcall hphase outcome
  obtain ⟨hnumber, rfl⟩ := List.getElem?_eq_some_iff.1 hcall
  refine ⟨[⟨board.calls[number].thread, false, .finish outcome⟩,
    ⟨board.calls[number].thread, false, .proceed⟩], ?_⟩
  rw [hrun]
  refine h.moved hthread h.lock rfl (List.append_nil _).symm ?_ ?_ fun other => ?_
  · exact .refl _
  · intro call hmem
    rcases List.mem_or_eq_of_mem_set hmem with hold | rfl
    · exact h.runs call hold
    · exact nofun
  · have hbefore := (List.getElem_cons_eraseIdx_perm hnumber).countP_eq (·.isPending other)
    rw [(List.set_perm_cons_eraseIdx hnumber _).countP_eq, ← hbefore]
    by_cases hother : other = board.calls[number].thread
    · subst hother
      simp [Thread.depth, Call.isPending, Phase.isClosed, hphase]
      omega
    · simp [hother, Ne.symm hother, Call.isPending]

theorem step {system : Threads} (h : Mirrors start system board) (index : Nat) :
    ∃ turns, Mirrors start (system.step index) (board.run turns) := by
  obtain ⟨threads, router⟩ := system
  rw [Threads.step]
  cases hthread : threads[index]? with
  | none => exact ⟨[], h⟩
  | some thread =>
    dsimp only
    rcases thread with ⟨program, sections, callers⟩ | outcome
    · cases program with
      | answer accepted =>
        match sections, callers with
        | [], [] => exact h.alone hthread rfl rfl
        | [], caller :: callers => exact h.finish hthread (.answered accepted)
        | opened :: sections, callers => exact h.leave hthread false
      | panic message =>
        match sections, callers with
        | [], [] => exact h.alone hthread rfl rfl
        | [], caller :: callers => exact h.finish hthread (.panicked message)
        | opened :: sections, callers => exact h.leave hthread true
      | install processor next => exact h.install hthread processor
      | route peer command next => exact h.route hthread peer command next
      | enter processor next => exact h.enter hthread processor
      | leave next =>
        match sections with
        | [] => exact h.alone hthread rfl rfl
        | opened :: sections => exact h.leave hthread false
    · exact h.alone hthread rfl rfl

/-- A schedule, by induction on its length: each step goes on from the board of the steps before it. -/
theorem schedule {system : Threads} (h : Mirrors start system board) (indices : List Nat) :
    ∃ turns, Mirrors start (indices.foldl Threads.step system) (board.run turns) := by
  induction indices generalizing system board with
  | nil => exact ⟨[], h⟩
  | cons index indices ih =>
    obtain ⟨turns, hstep⟩ := h.step index
    obtain ⟨more, hrest⟩ := ih hstep
    refine ⟨turns ++ more, ?_⟩
    rw [run, List.foldl_append]
    exact hrest

end Mirrors

theorem mirrors_start (router : Router) (programs : List Program) :
    Mirrors router ⟨programs.map Thread.ofProgram, router⟩ (start router.current) where
  lock := rfl
  history := (List.append_nil _).symm
  guards := by
    induction programs with
    | nil => exact .refl _
    | cons program programs ih => exact ih
  runs := nofun
  depth thread := by
    rw [List.getElem?_map]
    cases programs[thread]? with
    | none => rfl
    | some program => rfl

/-- Any number of threads use one router in any order, with processors that answer or panic and use it in
between. The lock is never poisoned, and every use of it answers the processor that was installed last. So
the processors that are handed back are the first one and then those that were installed, in order, of which
only the last one is still there; and a call hands its command to the processor that it read, once, and comes
to what that came to, which nothing on other threads can keep it from. Threads that run programs do nothing
else. -/
theorem processors_are_switched_one_by_one :
    (∀ {P : Type} (initial : P) (turns : List (Turn P)),
      let board := (start initial).run turns
      board.lock.isPoisoned = false ∧
      (∀ (before : List (Event P)) (event : Event P), before ++ [event] <+: board.log →
        ∀ answer ∈ event.answer?, answer = .ok (currentAfter initial before)) ∧
      initial :: board.log.flatMap Event.installed
        = board.log.flatMap Event.displaced ++ [board.lock.value] ∧
      board.log.flatMap Event.kept ~ board.log.flatMap Event.restored ++ board.guards ∧
      (∀ number, about board.log number = (board.calls[number]?).elim [] (Call.story number)) ∧
      ∀ thread number call, board.innermost? thread = some number → board.calls[number]? = some call →
        (call.phase = .fetched →
          (board.run [⟨thread, false, .proceed⟩]).calls[number]? = some { call with phase := .running }) ∧
        (call.phase = .running → ∀ outcome,
          (board.run [⟨thread, false, .finish outcome⟩, ⟨thread, false, .proceed⟩]).calls[number]?
            = some { call with phase := .closed outcome })) ∧
    ∀ (router : Router) (programs : List Program) (indices : List Nat), ∃ turns,
      let board := (start router.current).run turns
      let system := indices.foldl Threads.step ⟨programs.map Thread.ofProgram, router⟩
      system.router.current = board.lock.value ∧
        system.router.history = router.history ++ board.log.flatMap Event.uses := by
  refine ⟨fun initial turns => ?_, fun router programs indices => ?_⟩
  · have h := (Faithful.start initial).run turns
    refine ⟨h.sound, h.answers, h.chain, h.sections, h.calls, fun thread number call hinnermost hcall => ?_⟩
    obtain ⟨hnumber, -⟩ := List.getElem?_eq_some_iff.1 hcall
    refine ⟨fun hphase => ?_, fun hphase outcome => ?_⟩
    · rw [run_proceed hinnermost hcall hphase]
      exact List.getElem?_set_self hnumber
    · rw [run_finish hinnermost hcall hphase]
      exact List.getElem?_set_self hnumber
  · obtain ⟨turns, h⟩ := (mirrors_start router programs).schedule indices
    exact ⟨turns, congrArg Lock.value h.lock.symm, h.history⟩

/-- Two threads: a processor installs another one while a section is open on the other thread, where the
processor of the moment panics and the guard of the section is dropped on the way out. -/
theorem panic_inside_a_section :
    let turns : List (Turn String) :=
      [⟨0, false, .use (.route "a" "x")⟩, ⟨1, false, .use (.enter "second")⟩, ⟨0, false, .proceed⟩,
        ⟨0, false, .use (.replace "third")⟩, ⟨1, false, .use (.route "b" "y")⟩, ⟨1, false, .proceed⟩,
        ⟨0, false, .finish (.answered true)⟩, ⟨1, false, .finish (.panicked "m")⟩, ⟨1, false, .proceed⟩,
        ⟨1, true, .use (.leave 0)⟩, ⟨0, false, .proceed⟩, ⟨1, false, .use .obtain⟩]
    let board := (start "first").run turns
    let before : List (Event String) := board.log.take 4
    before ++ [.asked 1 1 "b" "y" (.ok "third")] <+: board.log ∧ currentAfter "first" before = "third" ∧
      board.log.flatMap Event.displaced = ["first", "second", "third"] ∧ board.lock = ⟨"first", false⟩ ∧
      about board.log 0 =
        [.asked 0 0 "a" "x" (.ok "first"), .began 0 "first" "a" "x", .ended 0 "first" (.answered true),
          .returned 0 (.answered true)] ∧
      about board.log 1 =
        [.asked 1 1 "b" "y" (.ok "third"), .began 1 "third" "b" "y", .ended 1 "third" (.panicked "m"),
          .returned 1 (.panicked "m")] := by
  intro turns board before
  obtain ⟨-, hanswers, hchain, -, hcalls, -⟩ := processors_are_switched_one_by_one.1 "first" turns
  have hbegins : before ++ [.asked 1 1 "b" "y" (.ok "third")] <+: board.log :=
    ⟨board.log.drop 5, rfl⟩
  have hread := hanswers before _ hbegins _ rfl
  refine ⟨hbegins, (Except.ok.inj hread).symm, ?_, rfl, hcalls 0, hcalls 1⟩
  have hall : ["first", "second", "third"] ++ ["first"] = board.log.flatMap Event.displaced ++ ["first"] :=
    hchain
  exact (List.append_cancel_right hall).symm

end Board

end Courier.Command
