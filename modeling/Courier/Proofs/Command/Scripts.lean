import Courier.Proofs.Command.Log

/-! # Scripts of sections, replacements and routed commands

A script is what one thread does with a router when its sections are nested: each is left before the one around it.
What comes of a script is said here without any guard, as if processors were names: a section binds one for its
body, and what is behind the section goes on with the processor from before it. A board on which the turns of a
script are made comes to exactly that (`Board.run_turns`).
-/

namespace Courier.Command

inductive Script (P : Type) where
  | done
  | replace (processor : P) (rest : Script P)
  /-- A command is routed. `inner` is what its processor does on the way, and `outcome` what it comes to. -/
  | route (peer command : String) (inner : Script P) (outcome : Outcome) (rest : Script P)
  /-- A section with its body, and whether it is left by panic. -/
  | within (processor : P) (body : Script P) (panics : Bool) (rest : Script P)

namespace Script

variable {P : Type}

/-- The turns of a thread that follows the script, while so many guards are there already. -/
def turns (thread : Nat) : Nat → Script P → List (Board.Turn P)
  | _, done => []
  | depth, replace processor rest => ⟨thread, false, .use (.replace processor)⟩ :: rest.turns thread depth
  | depth, route peer command inner outcome rest =>
    [⟨thread, false, .use (.route peer command)⟩, ⟨thread, false, .proceed⟩] ++ (inner.turns thread depth ++
      ([⟨thread, false, .finish outcome⟩, ⟨thread, false, .proceed⟩] ++ rest.turns thread depth))
  | depth, within processor body panics rest =>
    ⟨thread, false, .use (.enter processor)⟩ ::
      (body.turns thread (depth + 1) ++ ⟨thread, panics, .use (.leave depth)⟩ :: rest.turns thread depth)

/-- The processors that are installed directly, in order: not those of sections, and none that is installed inside
of a section. What the processors install that are called is counted, for it is not undone. -/
def installs : Script P → List P
  | done => []
  | replace processor rest => processor :: rest.installs
  | route _ _ inner _ rest => inner.installs ++ rest.installs
  | within _ _ _ rest => rest.installs

/-- The processor that is installed at the end, given the one at the beginning. -/
def final (current : P) (script : Script P) : P := script.installs.getLastD current

def calls (thread : Nat) : P → Script P → List (Call P)
  | _, done => []
  | _, replace processor rest => rest.calls thread processor
  | current, route peer command inner outcome rest =>
    ⟨thread, peer, command, current, .closed outcome⟩ ::
      (inner.calls thread current ++ rest.calls thread (inner.final current))
  | current, within processor body _ rest => body.calls thread processor ++ rest.calls thread current

/-- What is seen of a script; its calls are numbered from `number` on. -/
def events (thread : Nat) : Nat → P → Script P → List (Board.Event P)
  | _, _, done => []
  | number, current, replace processor rest =>
    .replaced thread .replace processor (.ok current) :: rest.events thread number processor
  | number, current, route peer command inner outcome rest =>
    [.asked number thread peer command (.ok current), .began number current peer command] ++
      (inner.events thread (number + 1) current ++
        ([.ended number current outcome, .returned number outcome] ++
          rest.events thread (number + 1 + (inner.calls thread current).length) (inner.final current)))
  | number, current, within processor body _ rest =>
    .replaced thread .enter processor (.ok current) :: (body.events thread number processor ++
      .replaced thread .leave current (.ok (body.final processor)) ::
        rest.events thread (number + (body.calls thread processor).length) current)

variable {current processor : P} {peer command : String} {outcome : Outcome} {panics : Bool}
  {inner body rest : Script P}

@[simp]
theorem final_done : (done : Script P).final current = current := rfl

@[simp]
theorem final_replace : (replace processor rest).final current = rest.final processor :=
  List.getLastD_cons

theorem getLastD_append (left right : List P) :
    (left ++ right).getLastD current = right.getLastD (left.getLastD current) := by
  cases right using List.reverseRecOn with
  | nil => rw [List.append_nil, List.getLastD_nil]
  | append_singleton => rw [← List.append_assoc, List.getLastD_concat, List.getLastD_concat]

@[simp]
theorem final_route :
    (route peer command inner outcome rest).final current = rest.final (inner.final current) :=
  getLastD_append _ _

@[simp]
theorem final_within : (within processor body panics rest).final current = rest.final current := rfl

theorem isClosed_of_mem_calls {thread : Nat} {script : Script P} {call : Call P}
    (h : call ∈ script.calls thread current) : call.phase.isClosed = true := by
  induction script generalizing current with
  | done => cases h
  | replace processor rest ih => exact ih h
  | route peer command inner outcome rest ihinner ihrest =>
    rcases List.mem_cons.1 h with rfl | hlater
    · rfl
    · exact (List.mem_append.1 hlater).elim ihinner ihrest
  | within processor body panics rest ihbody ihrest => exact (List.mem_append.1 h).elim ihbody ihrest

def applied (thread : Nat) (board : Board P) (script : Script P) : Board P where
  lock := ⟨script.final board.lock.value, false⟩
  guards := board.guards
  calls := board.calls ++ script.calls thread board.lock.value
  log := board.log ++ script.events thread board.calls.length board.lock.value

end Script

namespace Board

variable {P : Type} {board : Board P} {thread : Nat}

theorem innermost?_of_closed {other : Board P} {calls : List (Call P)}
    (hcalls : other.calls = board.calls ++ calls) (hclosed : ∀ call ∈ calls, call.phase.isClosed = true) :
    other.innermost? thread = board.innermost? thread := by
  induction calls using List.reverseRecOn generalizing other with
  | nil => rw [innermost?, innermost?, hcalls, List.append_nil]
  | append_singleton calls call ih =>
    have hlast : call.isPending thread = false := by
      rw [Call.isPending, hclosed call (by simp), Bool.not_true, Bool.and_false]
    have hconcat := innermost?_concat { board with calls := board.calls ++ calls } call board.log thread
    rw [List.append_assoc, ← hcalls, hlast] at hconcat
    exact hconcat.trans (ih rfl fun call hcall => hclosed call (List.mem_append_left _ hcall))

theorem isFree_of_closed {other : Board P} {calls : List (Call P)}
    (hcalls : other.calls = board.calls ++ calls) (hclosed : ∀ call ∈ calls, call.phase.isClosed = true) :
    other.isFree thread = board.isFree thread := by
  rw [isFree, isFree, innermost?_of_closed hcalls hclosed]
  cases hinnermost : board.innermost? thread with
  | none => rfl
  | some number =>
    obtain ⟨call, hcall, -⟩ := pending_of_innermost? hinnermost
    obtain ⟨hnumber, -⟩ := List.getElem?_eq_some_iff.1 hcall
    simp only [hcalls, List.getElem?_append_left hnumber]

def replaced (board : Board P) (thread : Nat) (processor : P) : Board P :=
  { board with
    lock := ⟨processor, false⟩
    log := board.log ++ [.replaced thread .replace processor (.ok board.lock.value)] }

def entered (board : Board P) (thread : Nat) (processor : P) : Board P :=
  { board with
    lock := ⟨processor, false⟩
    guards := board.guards ++ [board.lock.value]
    log := board.log ++ [.replaced thread .enter processor (.ok board.lock.value)] }

/-- The body of the section has followed a script, and the section is left. -/
def left (board : Board P) (thread : Nat) (processor : P) (body : Script P) : Board P :=
  { body.applied thread (board.entered thread processor) with
    lock := ⟨board.lock.value, false⟩
    guards := board.guards
    log := (body.applied thread (board.entered thread processor)).log ++
      [.replaced thread .leave board.lock.value (.ok (body.final processor))] }

def asked (board : Board P) (thread : Nat) (peer command : String) : Board P :=
  { board with
    calls := board.calls ++ [⟨thread, peer, command, board.lock.value, .running⟩]
    log := board.log ++
      [.asked board.calls.length thread peer command (.ok board.lock.value),
        .began board.calls.length board.lock.value peer command] }

/-- The processor has followed a script, and what it comes to is handed on. -/
def returned (board : Board P) (thread : Nat) (peer command : String) (inner : Script P) (outcome : Outcome) :
    Board P :=
  { inner.applied thread (board.asked thread peer command) with
    calls := board.calls ++ ⟨thread, peer, command, board.lock.value, .closed outcome⟩ ::
      inner.calls thread board.lock.value
    log := (inner.applied thread (board.asked thread peer command)).log ++
      [.ended board.calls.length board.lock.value outcome, .returned board.calls.length outcome] }

theorem innermost?_asked (board : Board P) (thread : Nat) (peer command : String) :
    (board.asked thread peer command).innermost? thread = some board.calls.length := by
  rw [asked, innermost?_concat]
  simp [Call.isPending, Phase.isClosed]

/-- The lock is sound, and it is not the router's turn on a thread. -/
structure Ready (board : Board P) (thread : Nat) : Prop where
  sound : board.lock.isPoisoned = false
  free : board.isFree thread = true

namespace Ready

theorem of_closed (h : board.Ready thread) {other : Board P} {calls : List (Call P)}
    (hsound : other.lock.isPoisoned = false) (hcalls : other.calls = board.calls ++ calls)
    (hclosed : ∀ call ∈ calls, call.phase.isClosed = true) : other.Ready thread where
  sound := hsound
  free := (isFree_of_closed hcalls hclosed).trans h.free

theorem applied (h : board.Ready thread) (script : Script P) : (script.applied thread board).Ready thread :=
  h.of_closed rfl rfl fun _ => Script.isClosed_of_mem_calls

theorem replaced (h : board.Ready thread) (processor : P) : (board.replaced thread processor).Ready thread where
  sound := rfl
  free := h.free

theorem entered (h : board.Ready thread) (processor : P) : (board.entered thread processor).Ready thread where
  sound := rfl
  free := h.free

theorem left (h : board.Ready thread) (processor : P) (body : Script P) :
    (board.left thread processor body).Ready thread :=
  h.of_closed rfl rfl fun _ => Script.isClosed_of_mem_calls

theorem asked (h : board.Ready thread) (peer command : String) :
    (board.asked thread peer command).Ready thread where
  sound := h.sound
  free := by
    rw [isFree, innermost?_asked]
    simp [Board.asked]

theorem returned (h : board.Ready thread) (peer command : String) (inner : Script P) (outcome : Outcome) :
    (board.returned thread peer command inner outcome).Ready thread := by
  refine h.of_closed rfl rfl fun call hcall => ?_
  rcases List.mem_cons.1 hcall with rfl | hinside
  · rfl
  · exact Script.isClosed_of_mem_calls hinside

theorem run_replace (h : board.Ready thread) (processor : P) :
    board.run [⟨thread, false, .use (.replace processor)⟩] = board.replaced thread processor := by
  rw [run_use h.free, perform, swap, Lock.replace_of_sound h.sound]
  rfl

theorem run_enter (h : board.Ready thread) (processor : P) :
    board.run [⟨thread, false, .use (.enter processor)⟩] = board.entered thread processor := by
  rw [run_use h.free, perform, swap, Lock.replace_of_sound h.sound]
  rfl

/-- The guard that came last is dropped, on the way out of a panic as well. -/
theorem run_leave (h : board.Ready thread) (processor : P) (body : Script P) (panics : Bool) :
    (body.applied thread (board.entered thread processor)).run
        [⟨thread, panics, .use (.leave board.guards.length)⟩] = board.left thread processor body := by
  have hinside := (h.entered processor).applied body
  have hlast : (body.applied thread (board.entered thread processor)).guards[board.guards.length]?
      = some board.lock.value :=
    List.getElem?_concat_length
  have hothers : (body.applied thread (board.entered thread processor)).guards.eraseIdx board.guards.length
      = board.guards := by
    simp [Script.applied, Board.entered, List.eraseIdx_append_of_length_le]
  rw [run_use hinside.free, perform, hlast, hothers]
  simp only [swap, Lock.replace_of_sound hinside.sound]
  rfl

theorem run_ask (h : board.Ready thread) (peer command : String) :
    board.run [⟨thread, false, .use (.route peer command)⟩, ⟨thread, false, .proceed⟩]
      = board.asked thread peer command :=
  run_route h.free (Lock.current_of_sound h.sound) peer command

end Ready

/-- The processor is done, and the calls that it made are over: its own is the innermost one again. -/
theorem run_return (board : Board P) (thread : Nat) (peer command : String) (inner : Script P)
    (outcome : Outcome) :
    (inner.applied thread (board.asked thread peer command)).run
        [⟨thread, false, .finish outcome⟩, ⟨thread, false, .proceed⟩]
      = board.returned thread peer command inner outcome := by
  have hinnermost : (inner.applied thread (board.asked thread peer command)).innermost? thread
      = some board.calls.length :=
    (innermost?_of_closed rfl fun _ => Script.isClosed_of_mem_calls).trans (innermost?_asked _ _ _ _)
  have hcalls : (inner.applied thread (board.asked thread peer command)).calls
      = board.calls ++ ⟨thread, peer, command, board.lock.value, .running⟩ ::
          inner.calls thread board.lock.value :=
    List.append_assoc _ _ _
  have hcall : (inner.applied thread (board.asked thread peer command)).calls[board.calls.length]?
      = some ⟨thread, peer, command, board.lock.value, .running⟩ := by
    rw [hcalls, List.getElem?_append_right (Nat.le_refl _), Nat.sub_self]
    rfl
  rw [run_finish hinnermost hcall rfl, hcalls, List.set_append_right _ _ (Nat.le_refl _), Nat.sub_self]
  rfl

theorem run_append (board : Board P) (turns more : List (Turn P)) :
    board.run (turns ++ more) = (board.run turns).run more :=
  List.foldl_append

theorem run_cons (board : Board P) (turn : Turn P) (turns : List (Turn P)) :
    board.run (turn :: turns) = (board.run [turn]).run turns := rfl

/-- A thread that follows a script, by induction on the script. On each level the guards that are there already
stay as they are, and so do the calls that are not over. -/
theorem run_turns (h : board.Ready thread) (script : Script P) :
    board.run (script.turns thread board.guards.length) = script.applied thread board := by
  induction script generalizing board with
  | done =>
    obtain ⟨⟨value, isPoisoned⟩, guards, calls, log⟩ := board
    obtain rfl : isPoisoned = false := h.sound
    simp [Script.turns, Script.applied, Script.calls, Script.events, run]
  | replace processor rest ih =>
    calc board.run (Script.turns thread board.guards.length (.replace processor rest))
      _ = (board.replaced thread processor).run (rest.turns thread board.guards.length) := by
        rw [Script.turns, run_cons, h.run_replace]
      _ = rest.applied thread (board.replaced thread processor) := ih (h.replaced processor)
      _ = Script.applied thread board (.replace processor rest) := by
        simp [Script.applied, Board.replaced, Script.calls, Script.events]
  | route peer command inner outcome rest ihinner ihrest =>
    have hinner : (board.asked thread peer command).run (inner.turns thread board.guards.length)
        = inner.applied thread (board.asked thread peer command) :=
      ihinner (h.asked peer command)
    calc board.run (Script.turns thread board.guards.length (.route peer command inner outcome rest))
      _ = (((board.asked thread peer command).run (inner.turns thread board.guards.length)).run
            [⟨thread, false, .finish outcome⟩, ⟨thread, false, .proceed⟩]).run
              (rest.turns thread board.guards.length) := by
        rw [Script.turns, run_append, h.run_ask, run_append, run_append]
      _ = (board.returned thread peer command inner outcome).run
            (rest.turns thread board.guards.length) := by
        rw [hinner, run_return]
      _ = rest.applied thread (board.returned thread peer command inner outcome) :=
        ihrest (h.returned peer command inner outcome)
      _ = Script.applied thread board (.route peer command inner outcome rest) := by
        simp [Script.applied, returned, asked, Script.calls, Script.events, Nat.add_assoc, Nat.add_comm 1]
  | within processor body panics rest ihbody ihrest =>
    have hdepth : (board.entered thread processor).guards.length = board.guards.length + 1 :=
      List.length_append
    have hbody := ihbody (h.entered processor)
    rw [hdepth] at hbody
    calc board.run (Script.turns thread board.guards.length (.within processor body panics rest))
      _ = (((board.entered thread processor).run (body.turns thread (board.guards.length + 1))).run
            [⟨thread, panics, .use (.leave board.guards.length)⟩]).run
              (rest.turns thread board.guards.length) := by
        rw [Script.turns, run_cons, h.run_enter, run_append, run_cons]
      _ = (board.left thread processor body).run (rest.turns thread board.guards.length) := by
        rw [hbody, h.run_leave]
      _ = rest.applied thread (board.left thread processor body) := ihrest (h.left processor body)
      _ = Script.applied thread board (.within processor body panics rest) := by
        simp [Script.applied, left, entered, Script.calls, Script.events]

end Board

end Courier.Command
