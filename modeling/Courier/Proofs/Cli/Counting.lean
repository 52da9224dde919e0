import Courier.Proofs.Cli.Listening

/-! # How many frames a listener prints

A listener that is to print a number of frames looks at that number only behind a frame that it has printed, so
to be asked for none is to be asked for one. Otherwise it never prints more than it was asked for, whatever it
is handed and whenever it is interrupted, and no fewer if so many wanted frames come through to it
(`prints_no_more_than_asked`).
-/

namespace Courier.Cli.Listen

variable {arguments : ListenArguments} {format : Format} {now : Nat}

/-- The same arguments, but with one frame to print if none was asked for. -/
def atLeastOne (arguments : ListenArguments) : ListenArguments :=
  { arguments with count := arguments.count.map (max 1) }

@[simp] theorem queue_atLeastOne (arguments : ListenArguments) :
    (atLeastOne arguments).queue = arguments.queue := rfl

@[simp] theorem routeCommands_atLeastOne (arguments : ListenArguments) :
    (atLeastOne arguments).routeCommands = arguments.routeCommands := rfl

@[simp] theorem server_atLeastOne (arguments : ListenArguments) :
    server (atLeastOne arguments) = server arguments := rfl

theorem print_atLeastOne (arguments : ListenArguments) (format : Format) (now : Nat) :
    print (atLeastOne arguments) format now = print arguments format now := by
  funext printing frame
  have hsame (count : Nat) : max 1 count ≤ printing.printed + 1 ↔ count ≤ printing.printed + 1 := by
    rw [Nat.max_le]
    exact and_iff_right (Nat.le_add_left 1 _)
  rw [print, print, atLeastOne]
  cases arguments.count with
  | none => rfl
  | some count => simp only [Option.map_some, hsame]

theorem receive_atLeastOne (arguments : ListenArguments) (format : Format) (now : Nat) :
    Session.receive (atLeastOne arguments) format now = Session.receive arguments format now := by
  funext session message
  simp only [Session.receive, print_atLeastOne, routeCommands_atLeastOne]

/-- Nothing else depends on the number of frames, so the whole command does not tell the two apart. -/
theorem run_atLeastOne (host : Host) (router : Command.Router) (arguments : ListenArguments) (format : Format)
    (now : Nat) (messages : List Bytes) :
    run host router (atLeastOne arguments) format now messages
      = run host router arguments format now messages := by
  simp only [run, receive_atLeastOne, server_atLeastOne, routeCommands_atLeastOne, queue_atLeastOne]

/-- The frames that are printed of those that are handed over, if the printing goes on long enough. -/
def shown (arguments : ListenArguments) (count : Nat) (handed : List Frame) : List Frame :=
  (handed.filter (wanted arguments.kinds)).take (max 1 count)

theorem length_shown (arguments : ListenArguments) (count : Nat) (handed : List Frame) :
    (shown arguments count handed).length = min (max 1 count) (handed.filter (wanted arguments.kinds)).length :=
  List.length_take

theorem wanted_of_mem_shown {count : Nat} {handed : List Frame} {frame : Frame}
    (h : frame ∈ shown arguments count handed) : wanted arguments.kinds frame = true :=
  (List.mem_filter.1 (List.mem_of_mem_take h)).2

theorem enough_atLeastOne {count printed : Nat} (hcount : arguments.count = some count) :
    enough (atLeastOne arguments) printed = decide (max 1 count ≤ printed) := by
  rw [enough, atLeastOne, hcount]
  rfl

theorem printing_nil {count : Nat} (hcount : arguments.count = some count) :
    printing (atLeastOne arguments) format now [] = {} := by
  have hnone : enough (atLeastOne arguments) 0 = false := by
    rw [enough_atLeastOne hcount]
    exact decide_eq_false (by omega)
  rw [printing, List.length_nil, hnone]
  rfl

theorem foldl_print {count : Nat} (hcount : arguments.count = some count) (format : Format) (now : Nat)
    (handed : List Frame) :
    handed.foldl (print arguments format now) {}
      = printing (atLeastOne arguments) format now (shown arguments count handed) := by
  -- from the last frame backwards, as whether it is printed depends on those before it
  induction handed using List.reverseRecOn with
  | nil =>
    have hnone : shown arguments count [] = [] := List.take_nil
    rw [hnone, printing_nil hcount]
    rfl
  | append_singleton handed frame ih =>
    rw [List.foldl_append, List.foldl_cons, List.foldl_nil, ih]
    cases hfinished : enough (atLeastOne arguments) (shown arguments count handed).length with
    | true =>
      rw [enough_atLeastOne hcount, decide_eq_true_iff, length_shown] at hfinished
      have hfull : max 1 count ≤ (handed.filter (wanted arguments.kinds)).length :=
        hfinished.trans (Nat.min_le_right _ _)
      have hsame : shown arguments count (handed ++ [frame]) = shown arguments count handed := by
        rw [shown, shown, List.filter_append, List.take_append_of_le_length hfull]
      have hdone : (printing (atLeastOne arguments) format now (shown arguments count handed)).finished
          = true := by
        rw [printing, enough_atLeastOne hcount, decide_eq_true_iff, length_shown]
        exact hfinished
      rw [hsame, print, hdone]
      rfl
    | false =>
      have hunfinished := hfinished
      rw [enough_atLeastOne hcount, decide_eq_false_iff_not, length_shown] at hfinished
      have hroom : (handed.filter (wanted arguments.kinds)).length + 1 ≤ max 1 count := by omega
      have hall : shown arguments count handed = handed.filter (wanted arguments.kinds) :=
        List.take_of_length_le (by omega)
      have hnext : shown arguments count (handed ++ [frame])
          = shown arguments count handed ++ [frame].filter (wanted arguments.kinds) := by
        have hone : ([frame].filter (wanted arguments.kinds)).length ≤ 1 := List.length_filter_le _ _
        rw [hall, shown, List.filter_append, List.take_of_length_le]
        rw [List.length_append]
        omega
      rw [hnext, ← print_atLeastOne]
      exact print_printing hunfinished frame

/-- What a session prints of a message are frames that the workers have handed over. -/
theorem exists_handed_receive (arguments : ListenArguments) (format : Format) (now : Nat) (session : Session)
    (message : Bytes) :
    ∃ handed : List Frame, (session.receive arguments format now message).printing
      = handed.foldl (print arguments format now) session.printing := by
  rw [Session.receive]
  split
  · exact ⟨[], rfl⟩
  · split
    · exact ⟨[], rfl⟩
    · split
      · exact ⟨[], rfl⟩
      · exact ⟨_, rfl⟩

theorem exists_handed (arguments : ListenArguments) (format : Format) (now : Nat) (messages : List Bytes)
    (session : Session) :
    ∃ handed : List Frame, (messages.foldl (Session.receive arguments format now) session).printing
      = handed.foldl (print arguments format now) session.printing := by
  induction messages generalizing session with
  | nil => exact ⟨[], rfl⟩
  | cons message messages ih =>
    obtain ⟨first, hfirst⟩ := exists_handed_receive arguments format now session message
    obtain ⟨later, hlater⟩ := ih (session.receive arguments format now message)
    exact ⟨first ++ later, by rw [List.foldl_cons, hlater, hfirst, List.foldl_append]⟩

/-- Whatever the host, the router and the messages are, only frames that the workers have handed over are
printed. -/
theorem exists_handed_of_run {host later : Host} {router after : Command.Router} {messages : List Bytes}
    {output : Output} (h : run host router arguments format now messages = (.ok output, later, after)) :
    ∃ handed : List Frame, output.stdout = (handed.foldl (print arguments format now) {}).output := by
  rw [run] at h
  split at h
  · cases h
  · rename_i started listening _
    obtain ⟨handed, hhanded⟩ := exists_handed arguments format now messages
      { host := started, server := listening, desk := { router } }
    cases h
    exact ⟨handed, congrArg Printing.output hhanded⟩

/-- A listener whose server starts prints the first wanted frames of those that come through. -/
theorem run_counting {count : Nat} (hcount : arguments.count = some count) {host started : Host}
    {listening : Reception.Server} {router : Command.Router}
    (hstart : (server arguments).start host = (.ok (), started, listening))
    (hcapacity : arguments.capacity < 9223372036854775807)
    (hanswers : Answers arguments.routeCommands router) (format : Format) (now : Nat)
    (messages : List Bytes) :
    ∃ output later after, run host router arguments format now messages = (.ok output, later, after) ∧
      output.stdout = lines arguments format now ((due arguments messages).take (max 1 count)) := by
  have hatLeast : (atLeastOne arguments).count = some (max 1 count) := by
    rw [atLeastOne, hcount]
    rfl
  have hpositive : ∀ other, (atLeastOne arguments).count = some other → 1 ≤ other := by
    intro other hother
    rw [← Option.some.inj (hatLeast.symm.trans hother)]
    exact Nat.le_max_left 1 count
  rw [← server_atLeastOne] at hstart
  obtain ⟨heard, output, later, hheard, hrun, -, hprinted⟩ :=
    run_of_start hstart hcapacity hpositive hanswers format now messages
  have hdue := hheard.due_eq
  rw [hatLeast] at hdue
  rw [run_atLeastOne] at hrun
  exact ⟨output, later, _, hrun, hprinted.trans (congrArg (lines arguments format now) hdue)⟩

/-- Of whatever the workers hand over, in whatever order and until whatever interruption, a listener prints the
first wanted frames, and it is at its end with the last one that it was to print: one if none was asked for.
So whatever host, router and messages there are, it prints no more frames than that, wanted ones only. If its
server starts, it prints as many as it was to print of the wanted frames that come through, or else all. -/
theorem prints_no_more_than_asked {count : Nat} (hcount : arguments.count = some count) (format : Format)
    (now : Nat) :
    (∀ handed : List Frame,
        let printing := handed.foldl (print arguments format now) {}
        printing.printed = min (max 1 count) (handed.filter (wanted arguments.kinds)).length ∧
          printing.output = lines arguments format now (shown arguments count handed) ∧
          (printing.finished = true ↔ max 1 count ≤ (handed.filter (wanted arguments.kinds)).length)) ∧
      (∀ host router messages output later after,
        run host router arguments format now messages = (.ok output, later, after) →
          ∃ printed : List Frame, printed.length ≤ max 1 count ∧
            (∀ frame ∈ printed, wanted arguments.kinds frame = true) ∧
            output.stdout = lines arguments format now printed) ∧
      ∀ host router started listening messages,
        (server arguments).start host = (.ok (), started, listening) →
        arguments.capacity < 9223372036854775807 → Answers arguments.routeCommands router →
          ∃ output later after printed,
            run host router arguments format now messages = (.ok output, later, after) ∧
              output.stdout = lines arguments format now printed ∧
              printed = (due arguments messages).take (max 1 count) ∧
              printed.length = min (max 1 count) (due arguments messages).length := by
  refine ⟨fun handed => ?_, ?_, ?_⟩
  · have hall := foldl_print hcount format now handed
    dsimp only
    rw [hall]
    refine ⟨length_shown arguments count handed, rfl, ?_⟩
    rw [printing, enough_atLeastOne hcount, decide_eq_true_iff, length_shown, Nat.le_min]
    exact and_iff_right le_rfl
  · intro host router messages output later after hrun
    obtain ⟨handed, hstdout⟩ := exists_handed_of_run hrun
    rw [foldl_print hcount] at hstdout
    refine ⟨shown arguments count handed, ?_, fun frame => wanted_of_mem_shown, hstdout⟩
    rw [length_shown]
    exact Nat.min_le_left _ _
  · intro host router started listening messages hstart hcapacity hanswers
    obtain ⟨output, later, after, hrun, hprinted⟩ :=
      run_counting hcount hstart hcapacity hanswers format now messages
    exact ⟨output, later, after, _, hrun, hprinted, rfl, List.length_take⟩

/-- Of two log lines the first is printed, though none was asked for. -/
theorem prints_no_more_than_asked_but_one :
    let arguments : ListenArguments := { queue := "/b", workers := 1, capacity := 60, count := some 0 }
    let first : Bytes := [0x41, 0x43, 1, 0, 0x61] ++ List.replicate 39 0 ++ [1, 0, 0, 0, 0x62]
    let second : Bytes := [0x41, 0x43, 1, 0, 0x61] ++ List.replicate 39 0 ++ [1, 0, 0, 0, 0x63]
    (server arguments).start .isolated = (.ok (), (Reception.Scene.ofRootQueue 60).host,
        (Reception.Scene.ofRootQueue 60).server) ∧
      ∃ output later after, run .isolated {} arguments .raw 0 [first, second] = (.ok output, later, after) ∧
        output.stdout = [0x62] := by
  intro arguments first second
  have hstart : (server arguments).start .isolated = (.ok (), (Reception.Scene.ofRootQueue 60).host,
      (Reception.Scene.ofRootQueue 60).server) := by cbv
  obtain ⟨-, -, hexact⟩ := prints_no_more_than_asked (rfl : arguments.count = some 0) .raw 0
  obtain ⟨output, later, after, printed, hrun, hstdout, hprinted, -⟩ :=
    hexact .isolated {} _ _ [first, second] hstart (by decide) (by rintro ⟨⟩)
  refine ⟨hstart, output, later, after, hrun, ?_⟩
  rw [hstdout, hprinted]
  cbv

end Courier.Cli.Listen
