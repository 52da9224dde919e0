import Courier.Command.Board
import Mathlib.Data.List.Find
import Mathlib.Data.List.Induction
import Mathlib.Data.List.Perm.Basic

/-! # What the log of a board says

Whatever threads and processors do with a router, the lock is sound, every use of it meets the processor that
was installed last, and a call tells one story: a processor is read, begins, ends and its outcome is handed
on (`Board.Faithful`). Each turn adds one event at most to the log, so each part of this is kept by adding
one event to it.
-/

namespace Courier.Command

open scoped List

namespace Board

variable {P : Type}

namespace Event

def answer? : Event P → Option (Except Reception.Error P)
  | obtained _ answer => some answer
  | replaced _ _ _ answer => some answer
  | asked _ _ _ _ answer => some answer
  | _ => none

def number? : Event P → Option Nat
  | asked number _ _ _ _ => some number
  | began number _ _ _ => some number
  | ended number _ _ => some number
  | returned number _ => some number
  | _ => none

def installed : Event P → List P
  | replaced _ _ installed (.ok _) => [installed]
  | _ => []

/-- The processor that is handed back for it. -/
def displaced : Event P → List P
  | replaced _ _ _ (.ok displaced) => [displaced]
  | _ => []

/-- What the guard of a section that begins is to put back. -/
def kept : Event P → List P
  | replaced _ .enter _ (.ok displaced) => [displaced]
  | _ => []

/-- What the guard of a section that ends puts back. -/
def restored : Event P → List P
  | replaced _ .leave installed _ => [installed]
  | _ => []

/-- An event that changes neither what is behind the lock nor the guards. -/
structure Idle (event : Event P) : Prop where
  installed : event.installed = []
  displaced : event.displaced = []
  kept : event.kept = []
  restored : event.restored = []

end Event

def about (log : List (Event P)) (number : Nat) : List (Event P) :=
  log.filter (·.number? == some number)

def currentAfter (initial : P) (log : List (Event P)) : P := (log.flatMap Event.installed).getLastD initial

end Board

/-- All that is seen of a call: the processor of the moment, handed its command once, and what it comes to. -/
def Call.story {P : Type} (number : Nat) (call : Call P) : List (Board.Event P) :=
  .asked number call.thread call.peer call.command (.ok call.processor) ::
    match call.phase with
    | .fetched => []
    | .running => [.began number call.processor call.peer call.command]
    | .ended outcome =>
      [.began number call.processor call.peer call.command, .ended number call.processor outcome]
    | .closed outcome =>
      [.began number call.processor call.peer call.command, .ended number call.processor outcome,
        .returned number outcome]

namespace Board

variable {P : Type} {initial : P} {board : Board P} {log : List (Event P)} {event : Event P}

theorem currentAfter_concat (initial : P) (log : List (Event P)) (event : Event P) :
    currentAfter initial (log ++ [event]) = event.installed.getLastD (currentAfter initial log) := by
  rw [currentAfter, List.flatMap_append, List.flatMap_singleton]
  cases event.installed using List.reverseRecOn with
  | nil => simp [currentAfter]
  | append_singleton _ _ => simp [List.getLastD_eq_getLast?]

theorem about_concat (log : List (Event P)) (event : Event P) (number : Nat) :
    about (log ++ [event]) number
      = about log number ++ if event.number? = some number then [event] else [] := by
  rw [about, List.filter_append]
  congr 1
  by_cases h : event.number? = some number <;> simp [h]

structure Faithful (initial : P) (board : Board P) : Prop where
  sound : board.lock.isPoisoned = false
  current : currentAfter initial board.log = board.lock.value
  /-- Every use of the lock answers the processor that was installed at that moment. -/
  answers : ∀ before event, before ++ [event] <+: board.log →
    ∀ answer ∈ event.answer?, answer = .ok (currentAfter initial before)
  /-- Every processor that was ever installed is handed back in its turn, but for the last one. -/
  chain : initial :: board.log.flatMap Event.installed
    = board.log.flatMap Event.displaced ++ [board.lock.value]
  /-- What sections displace is put back once or is still to be put back. -/
  sections : board.log.flatMap Event.kept ~ board.log.flatMap Event.restored ++ board.guards
  calls : ∀ number, about board.log number = (board.calls[number]?).elim [] (Call.story number)

namespace Faithful

theorem start (initial : P) : Faithful initial (start initial) where
  sound := rfl
  current := rfl
  answers := by
    intro before event hbegins
    simp [Board.start] at hbegins
  chain := rfl
  sections := .refl _
  calls := fun _ => rfl

/-- A use of the lock that is added to the log answers the processor that is installed. -/
theorem answers_concat (h : Faithful initial board)
    (hanswer : event.answer? = none ∨ event.answer? = some (.ok board.lock.value)) :
    ∀ before other, before ++ [other] <+: board.log ++ [event] →
      ∀ answer ∈ other.answer?, answer = .ok (currentAfter initial before) := by
  intro before other hbegins
  rcases List.prefix_concat_iff.1 hbegins with hall | hearlier
  · obtain ⟨rfl, hlast⟩ := List.append_inj' hall rfl
    obtain rfl := List.singleton_inj.1 hlast
    rw [h.current]
    rcases hanswer with hnone | hsome
    · simp [hnone]
    · simp [hsome]
  · exact h.answers before other hearlier

/-- An idle event is added to the log, and the calls are those that it leads to. -/
theorem record (h : Faithful initial board) (calls : List (Call P)) (hidle : event.Idle)
    (hanswer : event.answer? = none ∨ event.answer? = some (.ok board.lock.value))
    (hcalls : ∀ number, about (board.log ++ [event]) number = (calls[number]?).elim [] (Call.story number)) :
    Faithful initial { board with calls, log := board.log ++ [event] } where
  sound := h.sound
  current := by
    rw [currentAfter_concat, hidle.installed]
    exact h.current
  answers := h.answers_concat hanswer
  chain := by
    simp only [List.flatMap_append, List.flatMap_singleton, hidle.installed, hidle.displaced,
      List.append_nil]
    exact h.chain
  sections := by
    simp only [List.flatMap_append, List.flatMap_singleton, hidle.kept, hidle.restored, List.append_nil]
    exact h.sections
  calls := hcalls

/-- Another processor is put behind the lock, and the guards are those that the cause asks for. -/
theorem swap (h : Faithful initial board) (thread : Nat) (cause : Cause) (processor : P) (guards : List P)
    (hguards : (Event.replaced thread cause processor (.ok board.lock.value)).kept ++ board.guards
      ~ (Event.replaced thread cause processor (.ok board.lock.value)).restored ++ guards) :
    Faithful initial { board with
      lock := ⟨processor, false⟩
      guards
      log := board.log ++ [.replaced thread cause processor (.ok board.lock.value)] } where
  sound := rfl
  current := currentAfter_concat _ _ _
  answers := h.answers_concat (.inr rfl)
  chain := by
    simp only [List.flatMap_append, List.flatMap_singleton, Event.installed, Event.displaced]
    rw [← List.cons_append, h.chain]
  sections := by
    simp only [List.flatMap_append, List.flatMap_singleton]
    calc board.log.flatMap Event.kept ++ _
      _ ~ (board.log.flatMap Event.restored ++ board.guards) ++ _ := h.sections.append_right _
      _ = board.log.flatMap Event.restored ++ (board.guards ++ _) := List.append_assoc _ _ _
      _ ~ board.log.flatMap Event.restored ++ (_ ++ guards) :=
        (List.perm_append_comm.trans hguards).append_left _
      _ = _ := (List.append_assoc _ _ _).symm
  calls := by
    intro number
    rw [about_concat]
    simpa [Event.number?] using h.calls number

theorem ask (h : Faithful initial board) (thread : Nat) (peer command : String) :
    Faithful initial (board.ask thread peer command) := by
  rw [Board.ask, Lock.current_of_sound h.sound]
  refine h.record _ ⟨rfl, rfl, rfl, rfl⟩ (.inr rfl) fun number => ?_
  rw [about_concat, h.calls, List.getElem?_append]
  rcases Nat.lt_trichotomy number board.calls.length with hless | rfl | hgreater
  · simp [Event.number?, hless, Nat.ne_of_gt hless]
  · simp [Event.number?, Call.story]
  · simp [Event.number?, Nat.not_lt.2 (Nat.le_of_lt hgreater), Nat.ne_of_lt hgreater,
      Nat.sub_ne_zero_of_lt hgreater]

end Faithful

/-- A call goes on by the next event of its story, which is no use of the lock. -/
theorem story_of_next? {number : Nat} {call : Call P} {outcome? : Option Outcome} {phase : Phase}
    (h : call.next? number outcome? = some (phase, event)) :
    Call.story number { call with phase } = Call.story number call ++ [event] ∧
      event.number? = some number ∧ event.answer? = none ∧ event.Idle := by
  obtain ⟨thread, peer, command, processor, before⟩ := call
  cases outcome? <;> cases before <;>
    simp only [Call.next?, Option.some.injEq, Prod.mk.injEq, reduceCtorEq] at h
  all_goals
    obtain ⟨rfl, rfl⟩ := h
    exact ⟨rfl, rfl, rfl, rfl, rfl, rfl, rfl⟩

namespace Faithful

theorem advance (h : Faithful initial board) (thread : Nat) (outcome? : Option Outcome) :
    Faithful initial (board.advance thread outcome?) := by
  rw [Board.advance]
  split
  · exact h
  rename_i number _
  split
  · exact h
  rename_i call hcall
  split
  · exact h
  rename_i phase event hnext
  obtain ⟨hstory, hnumber, hanswer, hidle⟩ := story_of_next? hnext
  refine h.record _ hidle (.inl hanswer) fun other => ?_
  obtain ⟨hlength, rfl⟩ := List.getElem?_eq_some_iff.1 hcall
  rw [about_concat, h.calls, hnumber, List.getElem?_set]
  by_cases hother : number = other
  · subst hother
    simp [hlength, hstory]
  · simp [hother]

theorem perform (h : Faithful initial board) (thread : Nat) (unwinding : Bool) (use : Use P) :
    Faithful initial (board.perform thread unwinding use) := by
  cases use with
  | obtain =>
    have hread : some board.lock.current = some (.ok board.lock.value) :=
      congrArg some (Lock.current_of_sound h.sound)
    refine h.record board.calls ⟨rfl, rfl, rfl, rfl⟩ (.inr hread) fun number => ?_
    rw [about_concat]
    simpa [Event.number?] using h.calls number
  | replace processor =>
    rw [Board.perform, Board.swap, Lock.replace_of_sound h.sound]
    exact h.swap thread .replace processor board.guards (.refl _)
  | enter processor =>
    rw [Board.perform, Board.swap, Lock.replace_of_sound h.sound]
    exact h.swap thread .enter processor (board.guards ++ [board.lock.value]) List.perm_append_comm
  | leave position =>
    rw [Board.perform]
    split
    · exact h
    · rename_i previous hprevious
      obtain ⟨hposition, rfl⟩ := List.getElem?_eq_some_iff.1 hprevious
      rw [Board.swap, Lock.replace_of_sound h.sound]
      exact h.swap thread .leave _ (board.guards.eraseIdx position)
        (List.getElem_cons_eraseIdx_perm hposition).symm
  | route peer command => exact h.ask thread peer command

theorem step (h : Faithful initial board) (turn : Turn P) : Faithful initial (board.step turn) := by
  rw [Board.step]
  split
  · split
    · exact h.perform _ _ _
    · exact h
  · exact h.advance _ _
  · exact h.advance _ _

theorem run (h : Faithful initial board) (turns : List (Turn P)) : Faithful initial (board.run turns) := by
  induction turns generalizing board with
  | nil => exact h
  | cons turn turns ih => exact ih (h.step turn)

end Faithful

variable {thread number : Nat} {call : Call P}

theorem pending_of_innermost? (h : board.innermost? thread = some number) :
    ∃ call, board.calls[number]? = some call ∧ call.isPending thread = true := by
  have hpending := List.find?_some h
  rwa [Option.any_eq_true] at hpending

theorem exists_innermost? (h : 0 < board.calls.countP (·.isPending thread)) :
    ∃ number, board.innermost? thread = some number := by
  obtain ⟨call, hmem, hpending⟩ := List.countP_pos_iff.1 h
  obtain ⟨number, hnumber, rfl⟩ := List.getElem_of_mem hmem
  refine Option.isSome_iff_exists.1 (List.find?_isSome.2 ⟨number, ?_, ?_⟩)
  · simpa using hnumber
  · simpa [hnumber] using hpending

/-- A call that goes on without being over stays the innermost one. -/
theorem innermost?_set (hcall : board.calls[number]? = some call) (phase : Phase)
    (hclosed : phase.isClosed = call.phase.isClosed) (log : List (Event P)) (thread : Nat) :
    { board with calls := board.calls.set number { call with phase }, log }.innermost? thread
      = board.innermost? thread := by
  obtain ⟨hlength, rfl⟩ := List.getElem?_eq_some_iff.1 hcall
  simp only [innermost?, List.length_set]
  congr 1
  funext other
  by_cases hother : number = other
  · subst hother
    simp [hlength, Call.isPending, hclosed]
  · simp [hother]

theorem innermost?_concat (board : Board P) (call : Call P) (log : List (Event P)) (thread : Nat) :
    { board with calls := board.calls ++ [call], log }.innermost? thread
      = if call.isPending thread then some board.calls.length else board.innermost? thread := by
  have hearlier : ∀ number ∈ (List.range board.calls.length).reverse,
      (board.calls ++ [call])[number]?.any (·.isPending thread)
        = board.calls[number]?.any (·.isPending thread) := by
    intro number hnumber
    rw [List.getElem?_append_left (List.mem_range.1 (List.mem_reverse.1 hnumber))]
  simp only [innermost?, List.length_append, List.length_singleton, List.range_succ, List.reverse_append,
    List.reverse_singleton, List.singleton_append, List.find?_cons, List.getElem?_concat_length,
    Option.any_some, List.find?_congr hearlier]
  cases call.isPending thread <;> rfl

theorem run_use (h : board.isFree thread = true) (unwinding : Bool) (use : Use P) :
    board.run [⟨thread, unwinding, .use use⟩] = board.perform thread unwinding use := by
  simp [run, Board.step, h]

theorem run_route (h : board.isFree thread = true) {processor : P} (hread : board.lock.current = .ok processor)
    (peer command : String) :
    board.run [⟨thread, false, .use (.route peer command)⟩, ⟨thread, false, .proceed⟩] = { board with
      calls := board.calls ++ [⟨thread, peer, command, processor, .running⟩]
      log := board.log ++
        [.asked board.calls.length thread peer command (.ok processor),
          .began board.calls.length processor peer command] } := by
  simp [run, Board.step, h, perform, Board.ask, hread, Board.advance, innermost?_concat, Call.isPending,
    Phase.isClosed, Call.next?]

theorem run_proceed (hinnermost : board.innermost? thread = some number)
    (hcall : board.calls[number]? = some call) (hphase : call.phase = .fetched) :
    board.run [⟨thread, false, .proceed⟩] = { board with
      calls := board.calls.set number { call with phase := .running }
      log := board.log ++ [.began number call.processor call.peer call.command] } := by
  simp [run, Board.step, Board.advance, hinnermost, hcall, Call.next?, hphase]

theorem run_finish (hinnermost : board.innermost? thread = some number)
    (hcall : board.calls[number]? = some call) (hphase : call.phase = .running) (outcome : Outcome) :
    board.run [⟨thread, false, .finish outcome⟩, ⟨thread, false, .proceed⟩] = { board with
      calls := board.calls.set number { call with phase := .closed outcome }
      log := board.log ++ [.ended number call.processor outcome, .returned number outcome] } := by
  have hfinish : board.advance thread (some outcome) = { board with
      calls := board.calls.set number { call with phase := .ended outcome }
      log := board.log ++ [.ended number call.processor outcome] } := by
    simp [Board.advance, hinnermost, hcall, Call.next?, hphase]
  have hstill := innermost?_set hcall (.ended outcome) (by rw [hphase]; rfl)
    (board.log ++ [.ended number call.processor outcome]) thread
  rw [hinnermost] at hstill
  obtain ⟨hlength, -⟩ := List.getElem?_eq_some_iff.1 hcall
  change (board.advance thread (some outcome)).advance thread none = _
  rw [hfinish, Board.advance, hstill]
  simp [hlength, Call.next?]

end Board

end Courier.Command
