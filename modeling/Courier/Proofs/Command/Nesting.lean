import Courier.Proofs.Command.Calling
import Courier.Proofs.Command.Scripts
import Courier.Proofs.Command.Switching

/-! # Sections nest

A guard puts back what it kept, without regard to what is installed by then. If sections are nested this is what
was installed when the section began, so on each level of a script only what is installed on this very level counts.
Programs that run on threads are nested by themselves: each of their runs follows a script, where no guard is known
(`Thread.exists_follows`).
-/

namespace Courier.Command

namespace Script

variable {P : Type}

def followedBy : Script P → Script P → Script P
  | done, later => later
  | replace processor rest, later => replace processor (rest.followedBy later)
  | route peer command inner outcome rest, later =>
    route peer command inner outcome (rest.followedBy later)
  | within processor body panics rest, later => within processor body panics (rest.followedBy later)

/-- The levels of a script, each with the processor that is installed at its beginning: the script itself, the bodies
of its sections, and what the processors do that are called. -/
inductive Level (current : P) (script : Script P) : P → Script P → Prop where
  | whole : Level current script current script
  | body {first processor : P} {earlier body rest : Script P} {panics : Bool}
      (h : Level current script first (earlier.followedBy (within processor body panics rest))) :
      Level current script processor body
  | inner {first : P} {earlier inner rest : Script P} {peer command : String} {outcome : Outcome}
      (h : Level current script first (earlier.followedBy (route peer command inner outcome rest))) :
      Level current script (earlier.final first) inner

variable {current first : P} {script level : Script P}

theorem events_followedBy (thread number : Nat) (current : P) (earlier later : Script P) :
    (earlier.followedBy later).events thread number current = earlier.events thread number current
      ++ later.events thread (number + (earlier.calls thread current).length) (earlier.final current) := by
  induction earlier generalizing number current with
  | done => rfl
  | replace processor rest ih => simp [followedBy, events, calls, ih]
  | route peer command inner outcome rest _ ih =>
    have hnumber : number + 1 + (inner.calls thread current).length
          + (rest.calls thread (inner.final current)).length
        = number + ((route peer command inner outcome rest).calls thread current).length := by
      simp only [calls, List.length_cons, List.length_append]
      omega
    simp [followedBy, events, ih, hnumber]
  | within processor body panics rest _ ih => simp [followedBy, events, calls, ih, Nat.add_assoc]

/-- What is seen of a level is seen of the script, in one piece. -/
theorem Level.events_infix (h : Level current script first level) (thread number : Nat) :
    ∃ offset, level.events thread offset first <:+: script.events thread number current := by
  induction h with
  | whole => exact ⟨number, List.infix_rfl⟩
  | @body first processor earlier body rest panics _ ih =>
    obtain ⟨offset, hlevel⟩ := ih
    refine ⟨offset + (earlier.calls thread first).length, List.IsInfix.trans ?_ hlevel⟩
    rw [events_followedBy]
    exact .trans ⟨[_], _, rfl⟩ (List.suffix_append _ _).isInfix
  | @inner first earlier inner rest peer command outcome _ ih =>
    obtain ⟨offset, hlevel⟩ := ih
    refine ⟨offset + (earlier.calls thread first).length + 1, List.IsInfix.trans ?_ hlevel⟩
    rw [events_followedBy]
    exact .trans ⟨[_, _], _, rfl⟩ (List.suffix_append _ _).isInfix

/-- What a script adds to the history of a router. -/
def uses : Processor → Script Processor → List Event
  | _, done => []
  | current, replace processor rest => .replaced processor current :: rest.uses processor
  | current, route peer command inner _ rest =>
    .called current peer command :: (inner.uses current ++ rest.uses (inner.final current))
  | current, within processor body _ rest =>
    .replaced processor current :: (body.uses processor ++
      .replaced current (body.final processor) :: rest.uses current)

/-- It is what is seen of the script, as far as a router sees it. -/
theorem flatMap_uses_events (thread number : Nat) (current : Processor) (script : Script Processor) :
    (script.events thread number current).flatMap Board.Event.uses = script.uses current := by
  induction script generalizing number current with
  | done => rfl
  | replace processor rest ih => simp [events, uses, Board.Event.uses, ih]
  | route peer command inner outcome rest ihinner ihrest =>
    simp [events, uses, Board.Event.uses, ihinner, ihrest]
  | within processor body panics rest ihbody ihrest =>
    simp [events, uses, Board.Event.uses, ihbody, ihrest]

def played (router : Router) (script : Script Processor) : Router where
  current := script.final router.current
  history := router.history ++ script.uses router.current

section Played

variable {router : Router} {processor : Processor} {peer command : String} {outcome : Outcome} {panics : Bool}
  {inner body rest : Script Processor}

theorem played_done : (done : Script Processor).played router = router := by
  simp [played, uses]

theorem played_replace : rest.played (router.install processor) = (replace processor rest).played router := by
  simp [played, uses, Router.install, Router.replace]

theorem played_route : rest.played (inner.played (router.call peer command).2)
    = (route peer command inner outcome rest).played router := by
  simp [played, uses, Router.call]

/-- The guard that was made when the section began puts back what the script goes on with. -/
theorem played_within :
    rest.played ((Scoped.enter router processor).1.leave (body.played (Scoped.enter router processor).2))
      = (within processor body panics rest).played router := by
  simp [played, uses, Scoped.enter, Scoped.leave, Router.install, Router.replace]

end Played

end Script

/-- Where a program stops on a level: at its end, or where it leaves the section around it. -/
inductive Stop where
  | answered (accepted : Bool)
  | panicked (message : String)
  | leaving (next : Program)

namespace Stop

def program : Stop → Program
  | answered accepted => .answer accepted
  | panicked message => .panic message
  | leaving next => .leave next

def behind : Stop → Program
  | leaving next => next
  | stop => stop.program

def panics : Stop → Bool
  | panicked _ => true
  | _ => false

/-- How the program ends, if it is not to leave a section. -/
def outcome? : Stop → Option Outcome
  | answered accepted => some (.answered accepted)
  | panicked message => some (.panicked message)
  | leaving _ => none

end Stop

/-- What a program does until it stops, in a section or not, given the processor that is installed. No guard is
known here: behind a section all goes on with the processor from before it. -/
inductive Program.Follows : Bool → Processor → Program → Script Processor → Stop → Prop where
  | answer {inside : Bool} {current : Processor} {accepted : Bool} :
      Follows inside current (.answer accepted) .done (.answered accepted)
  | panic {inside : Bool} {current : Processor} {message : String} :
      Follows inside current (.panic message) .done (.panicked message)
  | install {inside : Bool} {current processor : Processor} {next : Program} {rest : Script Processor}
      {stop : Stop} (hrest : Follows inside processor next rest stop) :
      Follows inside current (.install processor next) (.replace processor rest) stop
  | route {inside : Bool} {current : Processor} {peer command : String} {next : Bool → Program}
      {inner rest : Script Processor} {accepted : Bool} {stop : Stop}
      (hinner : Follows false current (current.respond peer command) inner (.answered accepted))
      (hrest : Follows inside (inner.final current) (next accepted) rest stop) :
      Follows inside current (.route peer command next)
        (.route peer command inner (.answered accepted) rest) stop
  /-- Who calls a processor that panics does so, too. -/
  | fail {inside : Bool} {current : Processor} {peer command message : String} {next : Bool → Program}
      {inner : Script Processor}
      (hinner : Follows false current (current.respond peer command) inner (.panicked message)) :
      Follows inside current (.route peer command next)
        (.route peer command inner (.panicked message) .done) (.panicked message)
  | enter {inside : Bool} {current processor : Processor} {next : Program} {body rest : Script Processor}
      {stop last : Stop} (hbody : Follows true processor next body stop)
      (hrest : Follows inside current stop.behind rest last) :
      Follows inside current (.enter processor next) (.within processor body stop.panics rest) last
  | leave {current : Processor} {next : Program} :
      Follows true current (.leave next) .done (.leaving next)
  /-- Outside of sections there is none to leave. -/
  | skip {current : Processor} {next : Program} {rest : Script Processor} {stop : Stop}
      (hrest : Follows false current next rest stop) : Follows false current (.leave next) rest stop

open Program (Follows)

/-- Outside of sections a program stops at its end only. -/
theorem Program.Follows.outcome?_isSome {inside : Bool} {current : Processor} {program : Program}
    {script : Script Processor} {stop : Stop} (h : Follows inside current program script stop)
    (houtside : inside = false) : stop.outcome?.isSome = true := by
  induction h with
  | answer | panic | fail => rfl
  | install _ ih | skip _ ih => exact ih houtside
  | route _ _ _ ih | enter _ _ _ ih => exact ih houtside
  | leave => cases houtside

namespace Thread

variable {router last : Router} {program : Program} {sections : List Scoped} {callers : List Caller}
  {outcome : Outcome} {steps : Nat}

/-- A section is left when the program around it stops, whatever the reason. -/
theorem step_stop (stop : Stop) (opened : Scoped) :
    (Thread.running stop.program (opened :: sections) callers).step router
      = (.running stop.behind sections callers, opened.leave router) := by
  cases stop <;> rfl

/-- Ends of runs are reached by steps. -/
theorem exists_step (h : (Thread.running program sections callers).run steps router = (outcome, last))
    (hends : outcome ≠ .exhausted) :
    ∃ fewer, steps = fewer + 1 ∧ (((Thread.running program sections callers).step router).1).run fewer
      ((Thread.running program sections callers).step router).2 = (outcome, last) := by
  cases steps with
  | zero => exact absurd (congrArg Prod.fst h).symm hends
  | succ fewer => exact ⟨fewer, rfl, (run_succ _ _ _).symm.trans h⟩

/-- Within so many steps a program follows a script to where it stops on its level, and the thread goes on from
there. -/
def StopsWithin (steps : Nat) (router : Router) (program : Program) (sections : List Scoped)
    (callers : List Caller) (ended : Outcome × Router) : Prop :=
  ∃ script stop, Follows (!sections.isEmpty) router.current program script stop ∧
    ∃ fewer ≤ steps, (Thread.running stop.program sections callers).run fewer (script.played router) = ended

/-- In every run that ends a program comes to where it stops on its level, by induction on the steps that are left.
The processors that it calls and the sections that it begins are levels of their own, and each is over before the
program goes on. -/
theorem stopsWithin_of_run (h : (Thread.running program sections callers).run steps router = (outcome, last))
    (hends : outcome ≠ .exhausted) : StopsWithin steps router program sections callers (outcome, last) := by
  induction steps using Nat.strongRecOn generalizing program sections callers router with
  | ind steps ih =>
    have hstop : ∀ stop : Stop, program = stop.program →
        Follows (!sections.isEmpty) router.current program .done stop →
          StopsWithin steps router program sections callers (outcome, last) := by
      rintro stop rfl hfollows
      exact ⟨.done, stop, hfollows, steps, Nat.le_refl _, Script.played_done ▸ h⟩
    cases program with
    | answer accepted => exact hstop (.answered accepted) rfl .answer
    | panic message => exact hstop (.panicked message) rfl .panic
    | install processor next =>
      obtain ⟨fewer, rfl, hnext⟩ := exists_step h hends
      obtain ⟨rest, stop, hrest, more, hmore, hlast⟩ := ih fewer (Nat.lt_succ_self _) hnext
      exact ⟨_, stop, .install hrest, more, by omega, Script.played_replace ▸ hlast⟩
    | route peer command next =>
      obtain ⟨fewer, rfl, hcalled⟩ := exists_step h hends
      obtain ⟨inner, stop, hinner, more, hmore, hreturn⟩ := ih fewer (Nat.lt_succ_self _) hcalled
      obtain ⟨fewer, rfl, hbehind⟩ := exists_step hreturn hends
      cases stop with
      | answered accepted =>
        obtain ⟨rest, stop, hrest, more, hmore, hlast⟩ := ih fewer (by omega) hbehind
        exact ⟨_, stop, .route hinner hrest, more, by omega, Script.played_route ▸ hlast⟩
      | panicked message =>
        refine ⟨_, .panicked message, .fail hinner, fewer, by omega, ?_⟩
        rw [← Script.played_route, Script.played_done]
        exact hbehind
      | leaving next => cases hinner.outcome?_isSome rfl
    | enter processor next =>
      obtain ⟨fewer, rfl, hbegun⟩ := exists_step h hends
      obtain ⟨body, stop, hbody, more, hmore, hleave⟩ := ih fewer (Nat.lt_succ_self _) hbegun
      obtain ⟨fewer, rfl, hbehind⟩ := exists_step hleave hends
      rw [step_stop] at hbehind
      obtain ⟨rest, stop, hrest, more, hmore, hlast⟩ := ih fewer (by omega) hbehind
      exact ⟨_, stop, .enter hbody hrest, more, by omega, Script.played_within ▸ hlast⟩
    | leave next =>
      cases sections with
      | nil =>
        obtain ⟨fewer, rfl, hnext⟩ := exists_step h hends
        obtain ⟨rest, stop, hrest, more, hmore, hlast⟩ := ih fewer (Nat.lt_succ_self _) hnext
        exact ⟨rest, stop, .skip hrest, more, by omega, hlast⟩
      | cons opened sections => exact hstop (.leaving next) rfl .leave

/-- A thread that is done has followed a script to the end of its program. -/
theorem exists_follows (h : (Thread.ofProgram program).run steps router = (outcome, last))
    (hends : outcome ≠ .exhausted) :
    ∃ script stop, Follows false router.current program script stop ∧ stop.outcome? = some outcome ∧
      last = script.played router := by
  obtain ⟨script, stop, hfollows, more, -, hstopped⟩ := stopsWithin_of_run h hends
  obtain ⟨fewer, rfl, hlast⟩ := exists_step hstopped hends
  cases stop with
  | answered accepted | panicked message =>
    obtain ⟨rfl, rfl⟩ := Prod.mk.inj ((run_finished fewer _ _).symm.trans hlast)
    exact ⟨script, _, hfollows, rfl, rfl⟩
  | leaving next => cases hfollows.outcome?_isSome rfl

end Thread

open Board (Turn)

/-- A thread whose sections are nested leaves the router with the processor that was installed last outside of them,
and after each section, left by panic or not, the one from before it is installed again. On every level a command is
handed to what was installed last on this level, be it by a processor that was called from it, or else to what was
installed at its beginning. Threads that run programs are nested so whatever the programs are. -/
theorem sections_nest :
    (∀ {P : Type} (initial : P) (earlier : List (Turn P)) (thread : Nat) (script : Script P),
      let before := (Board.start initial).run earlier
      before.isFree thread = true →
        let after := before.run (script.turns thread before.guards.length)
        after.lock = ⟨script.installs.getLastD before.lock.value, false⟩ ∧
        (script.installs = [] → after.lock = before.lock) ∧
        after.guards = before.guards ∧
        after.calls = before.calls ++ script.calls thread before.lock.value ∧
        after.log = before.log ++ script.events thread before.calls.length before.lock.value ∧
        ∀ (processor : P) (body : Script P) (panics : Bool),
          (before.run ((Script.within processor body panics .done).turns thread before.guards.length)).lock
            = before.lock) ∧
    (∀ {P : Type} (current first : P) (script level : Script P) (thread start : Nat),
      Script.Level current script first level →
        ∃ offset, level.events thread offset first <:+: script.events thread start current ∧
          ∀ earlier : Script P,
            let now := earlier.installs.getLastD first
            let number := offset + (earlier.calls thread first).length
            (∀ (peer command : String) (inner : Script P) (outcome : Outcome) (rest : Script P),
              level = earlier.followedBy (.route peer command inner outcome rest) →
                level.events thread offset first = earlier.events thread offset first ++
                  .asked number thread peer command (.ok now) :: .began number now peer command ::
                    (inner.events thread (number + 1) now ++
                      .ended number now outcome :: .returned number outcome ::
                        rest.events thread (number + 1 + (inner.calls thread now).length)
                          (inner.installs.getLastD now))) ∧
            ∀ (processor : P) (body : Script P) (panics : Bool) (rest : Script P),
              level = earlier.followedBy (.within processor body panics rest) →
                level.events thread offset first = earlier.events thread offset first ++
                  .replaced thread .enter processor (.ok now) :: (body.events thread number processor ++
                    .replaced thread .leave now (.ok (body.installs.getLastD processor)) ::
                      rest.events thread (number + (body.calls thread processor).length) now)) ∧
    ∀ (program : Program) (router last : Router) (limit : Nat) (outcome : Outcome),
      (Thread.ofProgram program).run limit router = (outcome, last) → outcome ≠ .exhausted →
        ∃ script stop, Follows false router.current program script stop ∧ stop.outcome? = some outcome ∧
          last.current = script.installs.getLastD router.current ∧
          (script.installs = [] → last.current = router.current) ∧
          ∀ thread number, last.history = router.history ++
            (script.events thread number router.current).flatMap Board.Event.uses := by
  refine ⟨?_, ?_, fun program router last limit outcome hrun hends => ?_⟩
  · intro P initial earlier thread script before hfree after
    have hready : before.Ready thread := ⟨((Board.Faithful.start initial).run earlier).sound, hfree⟩
    have hlock : before.lock = ⟨before.lock.value, false⟩ := by
      rw [← hready.sound]
    have hafter : after = script.applied thread before := Board.run_turns hready script
    clear_value after
    subst hafter
    refine ⟨rfl, fun hnone => ?_, rfl, rfl, rfl, fun processor body panics => ?_⟩
    · rw [Script.applied, Script.final, hnone]
      exact hlock.symm
    · rw [Board.run_turns hready]
      exact hlock.symm
  · intro P current first script level thread start hlevel
    obtain ⟨offset, hinfix⟩ := hlevel.events_infix thread start
    refine ⟨offset, hinfix, fun earlier => ⟨?_, ?_⟩⟩
    · rintro peer command inner outcome rest rfl
      exact Script.events_followedBy _ _ _ _ _
    · rintro processor body panics rest rfl
      exact Script.events_followedBy _ _ _ _ _
  · obtain ⟨script, stop, hfollows, hstop, rfl⟩ := Thread.exists_follows hrun hends
    refine ⟨script, stop, hfollows, hstop, rfl, fun hnone => ?_, fun thread number => ?_⟩
    · rw [Script.played, Script.final, hnone]
      rfl
    · rw [Script.flatMap_uses_events]
      rfl

/-- Two sections, the inner one left by panic after a processor has installed yet another one; and a program whose
processor replaces itself inside of a section. -/
theorem sections_nest_twice :
    let before : Board String := (Board.start "first").run [⟨1, false, .use (.replace "second")⟩]
    let earlier : Script String :=
      .replace "b" (.within "c" (.replace "d" (.route "p" "x" (.replace "e" .done) (.panicked "m") .done)) true .done)
    let level : Script String := earlier.followedBy (.route "p" "y" .done (.answered true) .done)
    let script : Script String := .within "a" level false .done
    let program : Program :=
      .enter (.custom "swap" fun _ _ => .install .words (.answer true))
        (.route "main" "anything" fun accepted => .leave (.answer accepted))
    before.isFree 0 = true ∧ (before.run (script.turns 0 0)).lock = ⟨"second", false⟩ ∧
      Script.Level "second" script "a" level ∧
      (∃ offset, level.events 0 offset "a" <:+: script.events 0 0 "second" ∧
        level.events 0 offset "a" = earlier.events 0 offset "a" ++
          [.asked (offset + 1) 0 "p" "y" (.ok "b"), .began (offset + 1) "b" "p" "y",
            .ended (offset + 1) "b" (.answered true), .returned (offset + 1) (.answered true)]) ∧
      ∃ last : Router, (Thread.ofProgram program).run 7 {} = (.answered true, last) ∧ last.current = .words ∧
        ∃ script stop, Follows false .words program script stop ∧ stop.outcome? = some (.answered true) ∧
          last.current = script.installs.getLastD .words := by
  intro before earlier level script program
  have hwhole : Script.Level "second" script "second" (Script.done.followedBy script) := .whole
  have hlevel : Script.Level "second" script "a" level := .body hwhole
  refine ⟨rfl, (sections_nest.1 "first" [⟨1, false, .use (.replace "second")⟩] 0 script rfl).1, hlevel, ?_, ?_⟩
  · obtain ⟨offset, hinfix, hparts⟩ := sections_nest.2.1 "second" "a" script level 0 0 hlevel
    exact ⟨offset, hinfix, (hparts earlier).1 "p" "y" .done (.answered true) .done rfl⟩
  · obtain ⟨followed, stop, hfollows, hstop, hcurrent, -⟩ :=
      sections_nest.2.2 program {} _ 7 (.answered true) rfl nofun
    exact ⟨_, rfl, rfl, followed, stop, hfollows, hstop, hcurrent⟩

end Courier.Command
