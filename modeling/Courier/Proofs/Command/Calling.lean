import Courier.Proofs.Command.Routing

/-! # Handing one command on

A thread that routes a command waits below whatever the processor does, and takes no part in it. So a command
that is answered is one call of the processor of the moment, and all else that becomes of the router is what
this processor's own program does to it (`Router.routeWithin_of_answered`).
-/

namespace Courier.Command

namespace Thread

theorem run_finished (steps : Nat) (outcome : Outcome) (router : Router) :
    (Thread.finished outcome).run steps router = (outcome, router) := by
  cases steps <;> rfl

theorem run_succ (steps : Nat) (thread : Thread) (router : Router) :
    thread.run (steps + 1) router = (thread.step router).1.run steps (thread.step router).2 := by
  cases thread with
  | running program sections callers => rfl
  | finished outcome => exact (run_finished steps outcome router).symm

/-- A thread that goes on in a caller when it is finished. -/
def before (caller : Caller) : Thread → Thread
  | .running program sections callers => .running program sections (callers ++ [caller])
  | .finished (.answered accepted) => returned accepted [caller]
  | .finished (.panicked message) => unwound message [caller]
  | .finished .exhausted => .finished .exhausted

/-- What a thread does next has nothing to do with who waits for it to be finished. -/
theorem step_before (caller : Caller) (program : Program) (sections : List Scoped) (callers : List Caller)
    (router : Router) : ((Thread.running program sections callers).before caller).step router
      = (((Thread.running program sections callers).step router).1.before caller,
          ((Thread.running program sections callers).step router).2) := by
  cases program with
  | answer accepted | panic message =>
    cases sections with
    | nil => cases callers <;> rfl
    | cons opened sections => rfl
  | install processor next | route peer command next | enter processor next => rfl
  | leave next => cases sections <;> rfl

/-- A caller that only hands the answer on leaves the router as the thread before it has. -/
theorem run_of_before {steps : Nat} {thread : Thread} {router last : Router} {accepted : Bool}
    (h : (thread.before ⟨.answer, []⟩).run steps router = (.answered accepted, last)) :
    ∃ steps, thread.run steps router = (.answered accepted, last) := by
  induction steps generalizing thread router with
  | zero =>
    cases thread with
    | running program sections callers => cases h
    | finished outcome => cases outcome <;> cases h
  | succ steps ih =>
    cases thread with
    | running program sections callers =>
      rw [run_succ, step_before] at h
      obtain ⟨steps, hrun⟩ := ih h
      refine ⟨steps + 1, ?_⟩
      rw [run_succ]
      exact hrun
    | finished outcome =>
      cases outcome with
      | answered answer =>
        rw [run_succ] at h
        exact ⟨0, (run_finished steps _ router).symm.trans h⟩
      | panicked message =>
        rw [run_succ] at h
        cases (run_finished steps _ router).symm.trans h
      | exhausted => cases h

end Thread

namespace Router

variable {router last : Router} {limit : Nat} {peer command : String} {accepted : Bool}

theorem routeWithin_of_answered (h : router.routeWithin limit peer command = (.answered accepted, last)) :
    ∃ steps, (Thread.ofProgram (router.current.respond peer command)).run steps
      (router.call peer command).2 = (.answered accepted, last) := by
  cases limit with
  | zero => cases h
  | succ limit =>
    have hcalled : ((Thread.ofProgram (router.current.respond peer command)).before ⟨.answer, []⟩).run limit
        (router.call peer command).2 = (.answered accepted, last) := h
    exact Thread.run_of_before hcalled

end Router

end Courier.Command
