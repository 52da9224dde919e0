import Courier.Command.Thread

/-! # Commands routed one after another

Every command meets the router as the commands before it have left it. A processor that answers at once
leaves nothing there but the record of its calls.
-/

namespace Courier.Command

/-- Whether a processor answers every command without doing anything else. -/
def Processor.AnswersAtOnce (processor : Processor) : Prop :=
  ∀ peer command, ∃ accepted, processor.respond peer command = .answer accepted

theorem Processor.words_answersAtOnce : Processor.words.AnswersAtOnce :=
  fun peer command => ⟨accepts peer command, rfl⟩

namespace Router

def routeAll (limit : Nat) (router : Router) (commands : List (String × String)) : Router :=
  commands.foldl (fun router command => (router.routeWithin limit command.1 command.2).2) router

theorem routeAll_cons (limit : Nat) (router : Router) (command : String × String)
    (commands : List (String × String)) : router.routeAll limit (command :: commands)
      = (router.routeWithin limit command.1 command.2).2.routeAll limit commands := rfl

def AlwaysAnswers (limit : Nat) (router : Router) : Prop :=
  ∀ earlier peer command, ∃ accepted,
    ((router.routeAll limit earlier).routeWithin limit peer command).1 = .answered accepted

/-- Whether some commands are answered, each as the ones before it have left the router. -/
def AnswersAll (limit : Nat) (router : Router) (commands : List (String × String)) : Prop :=
  ∀ earlier command, earlier ++ [command] <+: commands → ∃ accepted,
    ((router.routeAll limit earlier).routeWithin limit command.1 command.2).1 = .answered accepted

theorem routeAll_append (limit : Nat) (router : Router) (earlier later : List (String × String)) :
    router.routeAll limit (earlier ++ later) = (router.routeAll limit earlier).routeAll limit later :=
  List.foldl_append

variable {router : Router} {limit : Nat}

theorem AnswersAll.of_longer {earlier commands : List (String × String)}
    (h : router.AnswersAll limit commands) (hearlier : earlier <+: commands) :
    router.AnswersAll limit earlier :=
  fun before command hbefore => h before command (hbefore.trans hearlier)

theorem answersAll_nil : router.AnswersAll limit [] :=
  fun earlier _ h => absurd (List.prefix_nil.1 h) (List.append_ne_nil_of_right_ne_nil earlier nofun)

theorem answersAll_cons {command : String × String} {commands : List (String × String)}
    (hfirst : ∃ accepted, (router.routeWithin limit command.1 command.2).1 = .answered accepted)
    (hrest : (router.routeWithin limit command.1 command.2).2.AnswersAll limit commands) :
    router.AnswersAll limit (command :: commands) := by
  intro earlier last h
  cases earlier with
  | nil =>
    obtain ⟨rfl, -⟩ := List.cons_prefix_cons.1 h
    exact hfirst
  | cons first earlier =>
    obtain ⟨rfl, hearlier⟩ := List.cons_prefix_cons.1 h
    exact hrest earlier last hearlier

theorem routeWithin_of_answersAtOnce (h : router.current.AnswersAtOnce) (hlimit : 3 ≤ limit)
    (peer command : String) :
    (∃ accepted, (router.routeWithin limit peer command).1 = .answered accepted) ∧
      (router.routeWithin limit peer command).2 = (router.call peer command).2 := by
  obtain ⟨accepted, hresponse⟩ := h peer command
  obtain ⟨limit, rfl⟩ : ∃ more, limit = more + 3 := ⟨limit - 3, by omega⟩
  have hrun : router.routeWithin (limit + 3) peer command
      = (.answered accepted, (router.call peer command).2) := by
    simp [routeWithin, Thread.ofProgram, Thread.run, Thread.step, call, hresponse, Thread.returned]
  rw [hrun]
  exact ⟨⟨accepted, rfl⟩, rfl⟩

theorem routeAll_of_answersAtOnce (h : router.current.AnswersAtOnce) (hlimit : 3 ≤ limit)
    (commands : List (String × String)) :
    router.routeAll limit commands = { router with
      history := router.history ++
        commands.map fun command => .called router.current command.1 command.2 } := by
  induction commands generalizing router with
  | nil => simp [routeAll]
  | cons command commands ih =>
    have hfirst := (routeWithin_of_answersAtOnce h hlimit command.1 command.2).2
    have hrest : (router.call command.1 command.2).2.current.AnswersAtOnce := h
    rw [routeAll_cons, hfirst, ih hrest]
    simp [call]

theorem alwaysAnswers_of_answersAtOnce (h : router.current.AnswersAtOnce) (hlimit : 3 ≤ limit) :
    router.AlwaysAnswers limit := by
  intro earlier peer command
  have hcurrent : (router.routeAll limit earlier).current.AnswersAtOnce := by
    rw [routeAll_of_answersAtOnce h hlimit]
    exact h
  exact (routeWithin_of_answersAtOnce hcurrent hlimit peer command).1

theorem three_le_of_alwaysAnswers (h : router.current.AnswersAtOnce)
    (hanswers : router.AlwaysAnswers limit) : 3 ≤ limit := by
  obtain ⟨accepted, hresponse⟩ := h "" ""
  obtain ⟨answer, hanswer⟩ := hanswers [] "" ""
  match limit with
  | 0 | 1 | 2 =>
    simp [routeAll, routeWithin, Thread.ofProgram, Thread.run, Thread.step, call, hresponse,
      Thread.returned] at hanswer
  | limit + 3 => exact Nat.le_add_left 3 limit

end Router

end Courier.Command
