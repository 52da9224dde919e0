import Courier.Proofs.Network.Passage

/-! # The connections of a sender

A sender that keeps sending goes from one connection to the next. Each of them has carried whole messages,
and after them at most a part of the one that ended it (`Carried`); `History` is the invariant of the
sends that were made so far.
-/

namespace Courier.Network

open Courier.Frame (Drain)
open Courier.Frame.Writer (Course)

/-- What a connection has carried after some sends on it: all their messages, whole, or all but the last
one's, and what that one has left when it failed. -/
inductive Carried (connection : Nat) : List Sent → Bytes → Prop
  | whole {sends : List Sent} (hok : ∀ sent ∈ sends, sent.outcome.isOk = true) :
      Carried connection sends (sends.map Sent.message).flatten
  | ended {sends : List Sent} {last : Sent} {part : Bytes}
      (hok : ∀ sent ∈ sends, sent.outcome.isOk = true) (hlast : last.Leaves connection part) :
      Carried connection (sends ++ [last]) ((sends.map Sent.message).flatten ++ part)

def sentOn (connection : Nat) (sends : List Sent) : List Sent :=
  sends.filter (·.connection? = some connection)

theorem sentOn_append_self {connection : Nat} {sent : Sent} (h : sent.connection? = some connection)
    (sends : List Sent) : sentOn connection (sends ++ [sent]) = sentOn connection sends ++ [sent] := by
  simp [sentOn, h]

theorem sentOn_append_other {connection : Nat} {sent : Sent} (h : sent.connection? ≠ some connection)
    (sends : List Sent) : sentOn connection (sends ++ [sent]) = sentOn connection sends := by
  simp [sentOn, h]

structure History (start : Line) (sends : List Sent) (line : Line) : Prop where
  /-- The connections of others are left alone. -/
  earlier : ∀ connection < start.host.connections.length,
    line.host.connections[connection]? = start.host.connections[connection]?
  length_le : start.host.connections.length ≤ line.host.connections.length
  carried : ∀ connection, start.host.connections.length ≤ connection →
    Carried connection (sentOn connection sends) (line.written connection)
  unused : ∀ connection, line.host.connections.length ≤ connection → sentOn connection sends = []
  wired : line.Wired
  /-- What went over the open connection ended well. -/
  current : ∀ connection, line.sender.connection = some connection →
    start.host.connections.length ≤ connection ∧
      (∀ sent ∈ sentOn connection sends, sent.outcome.isOk = true) ∧
        line.written connection = ((sentOn connection sends).map Sent.message).flatten

namespace History

variable {start line next : Line} {sends : List Sent} {message : Bytes}
  {outcome : Except Transport.Error Unit}

theorem refl (hclosed : start.sender.connection = none) : History start [] start where
  earlier _ _ := rfl
  length_le := Nat.le_refl _
  carried connection hconnection := by
    have hwritten : start.written connection = [] := by
      rw [Line.written, List.getD_eq_getElem?_getD, List.getElem?_eq_none hconnection]
      rfl
    rw [hwritten]
    exact .whole fun _ h => absurd h List.not_mem_nil
  unused _ _ := rfl
  wired connection h := by
    rw [hclosed] at h
    cases h
  current connection h := by
    rw [hclosed] at h
    cases h

theorem ready (h : History start sends line) {connection : Nat} {connections : List Drain}
    (hroute : Route line connection connections) :
    start.host.connections.length ≤ connection ∧
      (∀ sent ∈ sentOn connection sends, sent.outcome.isOk = true) ∧
        line.written connection = ((sentOn connection sends).map Sent.message).flatten := by
  cases hroute with
  | reused hopen => exact h.current connection hopen
  | opened fresh =>
    have hnone := h.unused _ (Nat.le_refl _)
    refine ⟨h.length_le, ?_, ?_⟩
    · rw [hnone]
      exact fun _ h => absurd h List.not_mem_nil
    · rw [hnone, Line.written, List.getD_eq_getElem?_getD, List.getElem?_eq_none (Nat.le_refl _)]
      rfl

theorem unreached (h : History start sends line) {sent : Sent} (hnone : sent.connection? = none)
    (hconnections : next.host.connections = line.host.connections) (hsender : next.sender = line.sender) :
    History start (sends ++ [sent]) next := by
  have hsends : ∀ connection, sentOn connection (sends ++ [sent]) = sentOn connection sends :=
    fun connection => sentOn_append_other (by simp [hnone]) sends
  have hwritten : ∀ connection, next.written connection = line.written connection :=
    fun connection => (Line.traffic_congr (by rw [hconnections])).1
  constructor
  case earlier =>
    intro connection hconnection
    rw [hconnections, h.earlier connection hconnection]
  case length_le =>
    rw [hconnections]
    exact h.length_le
  case carried =>
    intro connection hconnection
    rw [hsends, hwritten]
    exact h.carried connection hconnection
  case unused =>
    intro connection hconnection
    rw [hconnections] at hconnection
    rw [hsends, h.unused connection hconnection]
  case wired =>
    intro connection hconnection
    rw [hsender] at hconnection
    rw [hconnections]
    exact h.wired connection hconnection
  case current =>
    intro connection hconnection
    rw [hsender] at hconnection
    rw [hsends, hwritten]
    exact h.current connection hconnection

/-- The open connection carries on with a whole message, or is ended by a part of one. -/
theorem taken {sent : Sent} {connection limit : Nat} {before after : Drain}
    {answer : Except Frame.Error Unit} (h : History start sends sent.before)
    (htaken : Taken sent connection before after)
    (hcourse : Course limit (.encoded sent.message) before after answer)
    (hanswer : sent.outcome.isOk = answer.isOk)
    (hstart : start.host.connections.length ≤ connection)
    (hok : ∀ sent ∈ sentOn connection sends, sent.outcome.isOk = true)
    (hbytes : sent.before.written connection = ((sentOn connection sends).map Sent.message).flatten)
    (hlength : sent.before.host.connections.length ≤ sent.after.host.connections.length)
    (hsender : sent.after.sender.connection = if answer.isOk then some connection else none) :
    History start (sends ++ [sent]) sent.after := by
  have hsends := sentOn_append_self htaken.connection? sends
  have hother : ∀ other, other ≠ connection → sentOn other (sends ++ [sent]) = sentOn other sends ∧
      sent.after.written other = sent.before.written other := by
    intro other hne
    refine ⟨sentOn_append_other ?_ sends, (Line.traffic_congr (htaken.elsewhere other hne)).1⟩
    rw [htaken.connection?]
    exact fun h => hne (Option.some.inj h).symm
  have hwhole : answer.isOk = true → (∀ other ∈ sentOn connection sends ++ [sent], other.outcome.isOk = true) ∧
      sent.after.written connection = ((sentOn connection sends ++ [sent]).map Sent.message).flatten := by
    intro hanswered
    refine ⟨?_, ?_⟩
    · intro other hmem
      rcases List.mem_append.1 hmem with hearlier | hlast
      · exact hok other hearlier
      · rw [List.mem_singleton.1 hlast, hanswer, hanswered]
    · rw [htaken.written_of_ok hcourse hanswered, hbytes]
      simp
  constructor
  case earlier =>
    intro other hlt
    rw [htaken.elsewhere other (by omega), h.earlier other hlt]
  case length_le => exact Nat.le_trans h.length_le hlength
  case carried =>
    intro other hle
    by_cases hne : other = connection
    · subst hne
      rw [hsends]
      cases hanswered : answer.isOk with
      | true =>
        obtain ⟨hall, hwritten⟩ := hwhole hanswered
        rw [hwritten]
        exact .whole hall
      | false =>
        obtain ⟨part, hleaves⟩ := htaken.leaves_of_error hcourse hanswered (hanswer.trans hanswered)
        rw [hleaves.written, hbytes]
        exact .ended hok hleaves
    · rw [(hother other hne).1, (hother other hne).2]
      exact h.carried other hle
  case unused =>
    intro other hle
    have hlt := htaken.lt_length
    rw [(hother other (by omega)).1]
    exact h.unused other (by omega)
  case wired =>
    intro other hopen
    rw [hsender] at hopen
    split at hopen
    · obtain rfl := Option.some.inj hopen
      exact htaken.lt_length
    · cases hopen
  case current =>
    intro other hopen
    rw [hsender] at hopen
    split at hopen
    · rename_i hanswered
      obtain rfl := Option.some.inj hopen
      rw [hsends]
      exact ⟨hstart, hwhole hanswered⟩
    · cases hopen

theorem passed (h : History start sends line) (hpassage : Passage line message outcome next) :
    History start (sends ++ [⟨message, outcome, line, next⟩]) next := by
  cases hpassage with
  | unreachable error hclosed hconnections hsender =>
    refine h.unreached ?_ hconnections hsender
    simp [Sent.connection?, hclosed, hconnections]
  | @connected _ connection connections after answer hroute hcourse hconnections hsender =>
    obtain ⟨hstart, hok, hbytes⟩ := h.ready hroute
    have htaken := hroute.taken h.wired hconnections message
      (answer.mapError fun error => .send line.sender.address (Transport.Error.ofFrame error))
    refine taken h htaken hcourse (Passage.isOk_mapError _) hstart hok hbytes ?_ ?_
    · rw [hconnections, List.length_set]
      exact hroute.length_le
    · rw [hsender]

end History

namespace Line

/-- Sends messages one after another, each with what a new connection would come to at that time. -/
def run : List (Attempt × Bytes) → Line → List Sent × Line
  | [], line => ([], line)
  | (attempt, message) :: requests, line =>
    let (outcome, next) := line.send attempt message
    let (later, last) := run requests next
    (⟨message, outcome, line, next⟩ :: later, last)

variable {start line : Line} {sends : List Sent}

theorem history_run (requests : List (Attempt × Bytes)) (h : History start sends line) :
    History start (sends ++ (run requests line).1) (run requests line).2 := by
  induction requests generalizing sends line with
  | nil =>
    rw [run, List.append_nil]
    exact h
  | cons request requests ih =>
    obtain ⟨attempt, message⟩ := request
    have hnext := h.passed (line.passage_send attempt message)
    rw [run]
    simpa using ih hnext

theorem sound_run (requests : List (Attempt × Bytes)) (hwired : line.Wired) :
    ∀ sent ∈ (run requests line).1, sent.Sound line.sender.address line.sender.limit := by
  induction requests generalizing line with
  | nil => exact fun _ h => absurd h List.not_mem_nil
  | cons request requests ih =>
    obtain ⟨attempt, message⟩ := request
    have hpassage := line.passage_send attempt message
    intro sent hsent
    rcases List.mem_cons.1 hsent with rfl | hlater
    · exact hpassage.sound hwired
    · obtain ⟨haddress, hlimit⟩ := hpassage.same_destination
      rw [← haddress, ← hlimit]
      exact ih (hpassage.wired hwired) sent hlater

theorem message_run (requests : List (Attempt × Bytes)) (line : Line) :
    (run requests line).1.map Sent.message = requests.map Prod.snd := by
  induction requests generalizing line with
  | nil => rfl
  | cons request requests ih => exact congrArg (request.2 :: ·) (ih _)

theorem chained_run (requests : List (Attempt × Bytes)) {index : Nat} {earlier later : Sent}
    (hearlier : (run requests line).1[index]? = some earlier)
    (hlater : (run requests line).1[index + 1]? = some later) : later.before = earlier.after := by
  induction requests generalizing line index with
  | nil => cases hearlier
  | cons request requests ih =>
    rw [run] at hearlier hlater
    cases index with
    | succ index => exact ih hearlier hlater
    | zero =>
      obtain rfl := Option.some.inj hearlier
      cases requests with
      | nil => cases hlater
      | cons request requests =>
        obtain rfl := Option.some.inj hlater
        rfl

/-- However connections come about and however they take what is written to them, each connection carries
the messages of the sends over it that succeeded, whole and in order, and after them at most what the one
send that failed on it has left. The sender is connected exactly after the sends that succeeded. No other
connection is touched by a send, none at all by one that is refused for its size or cannot connect, and
the send after a failed one makes a new connection or cannot connect. -/
theorem nothing_follows_a_torn_message {address : String} {limit : Nat} {timeout : Option Span}
    {sender : Sender} (hopen : Sender.open address limit timeout = .ok sender) (host : Host)
    (requests : List (Attempt × Bytes)) :
    let run := run requests ⟨host, sender⟩
    run.1.map Sent.message = requests.map Prod.snd ∧
      (∀ connection, host.connections.length ≤ connection →
        Carried connection (sentOn connection run.1) (run.2.written connection)) ∧
      (∀ connection < host.connections.length,
        run.2.host.connections[connection]? = host.connections[connection]?) ∧
      (∀ sent ∈ run.1, sent.Sound address limit) ∧
      ∀ (index : Nat) (failed next : Sent), run.1[index]? = some failed → run.1[index + 1]? = some next →
        failed.outcome.isOk = false →
          next.connection? = some next.before.host.connections.length ∨
            ∃ error, next.outcome = .error (.connect address error) := by
  obtain ⟨hclosed, haddress, hlimit⟩ := Sender.fields_of_open hopen
  intro run
  have hwired : Line.Wired ⟨host, sender⟩ := by
    intro connection hconnection
    rw [hclosed] at hconnection
    cases hconnection
  have hfresh : History ⟨host, sender⟩ [] ⟨host, sender⟩ := .refl hclosed
  have hhistory := history_run requests hfresh
  have hsound := sound_run requests hwired
  rw [haddress, hlimit] at hsound
  refine ⟨message_run _ _, hhistory.carried, hhistory.earlier, hsound, ?_⟩
  intro index failed next hfailed hnext houtcome
  have hchained := chained_run requests hfailed hnext
  refine (hsound next (List.mem_of_getElem? hnext)).anew ?_
  rw [hchained, (hsound failed (List.mem_of_getElem? hfailed)).connected, houtcome]

/-- After a refused connection one message passes, and the next one tears, so the last goes elsewhere. -/
theorem torn_message_ends_its_connection :
    let sender : Sender := ⟨"7:1", 2, none, none⟩
    let requests : List (Attempt × Bytes) := [({ refusal := some (.os 111) }, [9]),
      ({ writes := [.accept 2, .accept 1, .fail (.os 32)] }, [1, 2]), ({}, [3, 4]), ({}, [5])]
    let run := run requests ⟨{ Host.isolated with connections := [{ written := [0] }] }, sender⟩
    Sender.open "7:1" 2 none = .ok sender ∧
      run.1.map Sent.connection? = [none, some 1, some 1, some 2] ∧
      Carried 1 (sentOn 1 run.1) [1, 2, 3] ∧ Carried 2 (sentOn 2 run.1) [5] := by
  intro sender requests run
  have hopen : Sender.open "7:1" 2 none = .ok sender := rfl
  obtain ⟨-, hcarried, -⟩ := nothing_follows_a_torn_message hopen
    { Host.isolated with connections := [{ written := [0] }] } requests
  have hfirst : run.2.written 1 = [1, 2, 3] := by decide +kernel
  have hsecond : run.2.written 2 = [5] := by decide +kernel
  refine ⟨hopen, by decide +kernel, ?_, ?_⟩
  · exact hfirst ▸ hcarried 1 (Nat.le_refl _)
  · exact hsecond ▸ hcarried 2 (by decide)

end Line

end Courier.Network
