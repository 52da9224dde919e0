import Courier.Proofs.Frame.ReadBack
import Courier.Proofs.Frame.Sending
import Courier.Proofs.Store.Walk
import Courier.Sink
import Courier.Store.Source

/-! # Files that sinks append to

However storage takes what is written to it, an append leaves a file as it was or longer by one whole
message. A `Session` opens and closes sinks and sends messages through them in any order; its receipts
tell which messages the file has been given, and if these are frames, they are read back from it.
-/

namespace Courier.Sink

open Courier.Frame (WriteEvent Reader Steady IsWire)

/-- An append adds the whole message or leaves the content as it is. -/
theorem append_cases (limit : Nat) (writes : List WriteEvent) (flushes : List (Option IoError))
    (content message : Bytes) :
    append limit writes flushes content message = (.ok (), content ++ message) ∨
      ∃ error, append limit writes flushes content message = (.error error, content) := by
  have hcourse := Frame.Writer.course_call (.encoded message)
    ⟨limit, { writes, flushes, written := content }⟩ []
  simp only [Frame.Writer.Request.call] at hcourse
  unfold append
  dsimp only
  split
  · rename_i writer hsend
    rw [hsend] at hcourse
    exact .inl (congrArg (Prod.mk _) hcourse.appended_encoded)
  · rename_i error writer hsend
    rw [hsend] at hcourse
    obtain ⟨part, hwritten⟩ := hcourse.exists_appended
    refine .inr ⟨error, congrArg (Prod.mk _) ?_⟩
    rw [hwritten, List.take_left]

namespace FileSink

theorem content_setContent (host : Host) (sink : FileSink) (bytes : Bytes) (file : Nat) :
    (sink.setContent host bytes).store.content file
      = if sink.target = .file file then bytes else host.store.content file := by
  unfold setContent
  cases sink.target with
  | device full => rw [if_neg nofun]
  | file id =>
    by_cases h : id = file
    · subst h
      simp [Store.content, Store.setContent]
    · simp [Store.content, Store.setContent, Table.get?_insert_of_ne _ _ (Ne.symm h), h]

theorem content_of_target {sink : FileSink} {file : Nat} (h : sink.target = .file file) (host : Host) :
    sink.content host = host.store.content file := by
  rw [content, h]

/-- A send adds its message to the file of its sink if it succeeds, and nothing to any file if it fails. -/
theorem content_sendUnder (writes : List WriteEvent) (flushes : List (Option IoError)) (host : Host)
    (sink : FileSink) (message : Bytes) (file : Nat) :
    (sendUnder writes flushes host sink message).2.store.content file = host.store.content file ++
      if sink.target = .file file ∧ (sendUnder writes flushes host sink message).1.isOk = true
      then message else [] := by
  rw [sendUnder]
  rcases append_cases sink.limit writes flushes (sink.content host) message with h | ⟨error, h⟩
  · rw [h]
    dsimp only
    rw [content_setContent]
    by_cases htarget : sink.target = .file file
    · rw [if_pos htarget, if_pos ⟨htarget, rfl⟩, content_of_target htarget]
    · simp [htarget]
  · rw [h]
    dsimp only
    rw [content_setContent]
    by_cases htarget : sink.target = .file file
    · rw [if_pos htarget, if_neg fun answered => Bool.false_ne_true answered.2, List.append_nil,
        content_of_target htarget]
    · simp [htarget]

theorem keeps_sendUnder (writes : List WriteEvent) (flushes : List (Option IoError)) (host : Host)
    (sink : FileSink) (message : Bytes) :
    host.store.Keeps (sendUnder writes flushes host sink message).2.store ∧
      (sendUnder writes flushes host sink message).2.store.nextId = host.store.nextId := by
  rw [sendUnder]
  dsimp only
  unfold setContent
  split
  · exact ⟨⟨fun h => h, rfl⟩, rfl⟩
  · exact ⟨.refl _, rfl⟩

end FileSink

structure Session where
  host : Host
  sinks : List FileSink := []

inductive Action where
  | «open» (path : String) (limit : Nat)
  | close (index : Nat)
  /-- Sends a message through a sink while the storage does what the lists say. -/
  | send (index : Nat) (message : Bytes) (writes : List WriteEvent) (flushes : List (Option IoError))

structure Receipt where
  sink : FileSink
  message : Bytes
  outcome : Except Transport.Error Unit
  before : Host
  after : Host

def Receipt.adds (receipt : Receipt) (file : Nat) : Bool :=
  receipt.sink.target = .file file && receipt.outcome.isOk

/-- The messages that a file was given, in order. -/
def accepted (file : Nat) (receipts : List Receipt) : List Bytes :=
  (receipts.filter (·.adds file)).map Receipt.message

namespace Session

def act (session : Session) : Action → List Receipt × Session
  | .open path limit =>
    match FileSink.open session.host path limit with
    | (.ok sink, host) => ([], ⟨host, session.sinks ++ [sink]⟩)
    | (.error _, host) => ([], { session with host })
  | .close index => ([], { session with sinks := session.sinks.eraseIdx index })
  | .send index message writes flushes =>
    match session.sinks[index]? with
    | none => ([], session)
    | some sink =>
      let (outcome, host) := sink.sendUnder writes flushes session.host message
      ([⟨sink, message, outcome, session.host, host⟩], { session with host })

def run : List Action → Session → List Receipt × Session
  | [], session => ([], session)
  | action :: actions, session =>
    let (receipts, next) := session.act action
    let (later, last) := run actions next
    (receipts ++ later, last)

end Session

theorem accepted_append (file : Nat) (earlier later : List Receipt) :
    accepted file (earlier ++ later) = accepted file earlier ++ accepted file later := by
  simp [accepted]

/-- What some sends have done to a file since the start: it holds what it held, with the messages that it
was given after that, at the end and after each send, and nothing at all is left of a failed one. -/
structure Appended (file : Nat) (start : Host) (receipts : List Receipt) (last : Host) : Prop where
  keeps : start.store.Keeps last.store
  known : file < last.store.nextId
  content : last.store.content file = start.store.content file ++ (accepted file receipts).flatten
  each : ∀ (index : Nat) (receipt : Receipt), receipts[index]? = some receipt →
    receipt.after.store.content file
      = start.store.content file ++ (accepted file (receipts.take (index + 1))).flatten
  failed : ∀ receipt ∈ receipts, receipt.outcome.isOk = false →
    ∀ other, receipt.after.store.content other = receipt.before.store.content other

namespace Appended

variable {file : Nat} {start middle last : Host} {receipts later : List Receipt}

theorem quiet (hkeeps : start.store.Keeps last.store) (hfile : file < last.store.nextId)
    (hcontent : last.store.content file = start.store.content file) : Appended file start [] last where
  keeps := hkeeps
  known := hfile
  content := hcontent.trans (List.append_nil _).symm
  each := fun _ _ h => absurd h (by simp)
  failed := fun _ h => absurd h List.not_mem_nil

theorem refl (hfile : file < start.store.nextId) : Appended file start [] start :=
  quiet (.refl _) hfile rfl

theorem trans (h : Appended file start receipts middle) (hlater : Appended file middle later last) :
    Appended file start (receipts ++ later) last where
  keeps := h.keeps.trans hlater.keeps
  known := hlater.known
  content := by
    rw [hlater.content, h.content, accepted_append, List.flatten_append, List.append_assoc]
  each := by
    intro index receipt hreceipt
    by_cases hindex : index < receipts.length
    · rw [List.getElem?_append_left hindex] at hreceipt
      rw [List.take_append_of_le_length hindex]
      exact h.each index receipt hreceipt
    · rw [List.getElem?_append_right (Nat.le_of_not_lt hindex)] at hreceipt
      have hearlier : receipts.take (index + 1) = receipts := List.take_of_length_le (by omega)
      rw [hlater.each _ _ hreceipt, h.content, List.append_assoc, ← List.flatten_append,
        ← accepted_append, List.take_append, hearlier,
        show index + 1 - receipts.length = index - receipts.length + 1 by omega]
  failed := by
    intro receipt hreceipt
    rcases List.mem_append.1 hreceipt with hearlier | hlast
    · exact h.failed receipt hearlier
    · exact hlater.failed receipt hlast

end Appended

/-- A new file takes the place of no other. -/
theorem FileSink.appended_open {host : Host} {file : Nat} (hfile : file < host.store.nextId)
    (path : String) (limit : Nat) :
    Appended file host [] (FileSink.open host path limit).2 := by
  rw [FileSink.open]
  split
  · exact .refl hfile
  · rename_i store target hopen
    rcases Store.openAppend_cases hopen with rfl | ⟨place, hvacant, -, rfl⟩
    · exact .refl hfile
    · have hkeeps := Store.keeps_setNode hvacant (.file host.store.nextId)
      refine .quiet ⟨hkeeps.nodes, hkeeps.workDir⟩ (Nat.lt_succ_of_lt hfile) ?_
      exact congrArg (Option.getD · []) (host.store.contents.get?_insert_of_ne [] (Nat.ne_of_lt hfile))

theorem FileSink.appended_sendUnder {host : Host} {file : Nat} (hfile : file < host.store.nextId)
    (writes : List WriteEvent) (flushes : List (Option IoError)) (sink : FileSink) (message : Bytes) :
    Appended file host
      [⟨sink, message, (sink.sendUnder writes flushes host message).1, host,
        (sink.sendUnder writes flushes host message).2⟩]
      (sink.sendUnder writes flushes host message).2 := by
  have hcontent := content_sendUnder writes flushes host sink message
  obtain ⟨hkeeps, hnextId⟩ := keeps_sendUnder writes flushes host sink message
  generalize sink.sendUnder writes flushes host message = sent at hcontent hkeeps hnextId ⊢
  have hadded : sent.2.store.content file = host.store.content file ++
      (accepted file [⟨sink, message, sent.1, host, sent.2⟩]).flatten := by
    rw [hcontent file]
    by_cases hadds : sink.target = .file file ∧ sent.1.isOk = true
    · simp [accepted, Receipt.adds, hadds]
    · rw [if_neg hadds]
      simp [accepted, Receipt.adds, hadds]
  refine ⟨hkeeps, hnextId ▸ hfile, hadded, ?_, ?_⟩
  · intro index receipt hreceipt
    obtain ⟨hindex, rfl⟩ := List.getElem?_eq_some_iff.1 hreceipt
    obtain rfl : index = 0 := Nat.lt_one_iff.1 hindex
    exact hadded
  · intro receipt hreceipt hfailed other
    obtain rfl := List.mem_singleton.1 hreceipt
    rw [hcontent other, if_neg (fun h => by simp [hfailed] at h), List.append_nil]

namespace Session

variable {session : Session} {file : Nat}

theorem appended_act (hfile : file < session.host.store.nextId) (action : Action) :
    Appended file session.host (session.act action).1 (session.act action).2.host := by
  cases action with
  | «open» path limit =>
    have h := FileSink.appended_open hfile path limit
    rw [act]
    split <;> rename_i hopen <;> rwa [hopen] at h
  | close index => exact .refl hfile
  | send index message writes flushes =>
    rw [act]
    split
    · exact .refl hfile
    · rename_i sink hsink
      exact FileSink.appended_sendUnder hfile writes flushes sink message

theorem appended_run (hfile : file < session.host.store.nextId) (actions : List Action) :
    Appended file session.host (run actions session).1 (run actions session).2.host := by
  induction actions generalizing session with
  | nil => exact .refl hfile
  | cons action actions ih =>
    have hact := appended_act hfile action
    exact hact.trans (ih hact.known)

/-- Whatever is done with any number of sinks, and however storage behaves, a file that is there keeps its
content and is given the messages of the sends that succeeded, whole and in order, and a send that failed
leaves no trace. If it held frames and was given frames, going through it gives the old and the new ones
and then ends, however the reads cut it; and any path that led to the file leads to it still. -/
theorem no_torn_message_is_kept (hfile : file < session.host.store.nextId) (actions : List Action) :
    let run := run actions session
    let held := session.host.store.content file
    let kept := run.2.host.store.content file
    (∀ (index : Nat) (receipt : Receipt), run.1[index]? = some receipt →
        receipt.after.store.content file = held ++ (accepted file (run.1.take (index + 1))).flatten) ∧
      (∀ receipt ∈ run.1, receipt.outcome.isOk = false →
        ∀ other, receipt.after.store.content other = receipt.before.store.content other) ∧
      kept = held ++ (accepted file run.1).flatten ∧
      (∀ (limit : Nat) (wires : List Bytes) (old new : List Frame), held = wires.flatten →
        List.Forall₂ (IsWire limit) wires old → List.Forall₂ (IsWire limit) (accepted file run.1) new →
        ∀ source, Steady source → Frame.content source = kept →
          ∀ count, old.length + new.length < count →
            (Reader.frames count { limit, source }).1 = (old ++ new).map .ok ∧
              (Reader.frames count { limit, source }).2.1 = true) ∧
      ∀ path, session.host.store.node true path = .ok (.file file) → ∀ reads, ∃ source,
        run.2.host.store.source reads path = .ok source ∧ Steady source ∧
          Frame.content source = kept := by
  intro run held kept
  have h := appended_run hfile actions
  refine ⟨h.each, h.failed, h.content, ?_, ?_⟩
  · intro limit wires old new hheld hold hnew source hsteady hsource count hcount
    have hcarried : List.Forall₂ (Frame.Carries limit) (wires ++ accepted file run.1) (old ++ new) :=
      List.rel_append (hold.imp fun _ _ hwire => hwire.carries) (hnew.imp fun _ _ hwire => hwire.carries)
    refine Reader.frames_of_carried hcarried ?_ rfl hsteady ?_
    · rwa [List.length_append]
    · rw [Reader.ahead, List.nil_append, hsource, List.flatten_append, ← hheld]
      exact h.content
  · intro path hpath reads
    have hlast := h.keeps.node_target hpath
    exact ⟨_, Store.source_file reads hlast, Frame.steady_data _, List.append_nil _⟩

/-- A file with one frame: of two sends over it the first fails only at the flush, and the second goes on
after an interruption. -/
theorem unflushed_frame_is_cut_off :
    let first : Bytes := [0x41, 0x43, 1, 0, 0x61] ++ List.replicate 39 0 ++ [2, 0, 0, 0, 7, 8]
    let second : Bytes := [0x41, 0x43, 1, 3, 0xC3, 0xA9] ++ List.replicate 42 0
    let store : Store := { Store.initial with
      nodes := Store.initial.nodes.insert ["work", "log"] (.file 0)
      contents := Store.initial.contents.insert 0 first
      nextId := 1 }
    let session : Session := ⟨{ Host.isolated with store }, [⟨"log", 2, .file 0⟩, ⟨"log", 9, .file 0⟩]⟩
    let actions : List Action := [.send 0 second [] [some (.os 5)],
      .send 1 second [.accept 3, .fail (.os 4)] []]
    0 < session.host.store.nextId ∧
      (run actions session).2.host.store.content 0 = first ++ second ∧
      ∃ source, (run actions session).2.host.store.source 1 "log" = .ok source ∧
        (Reader.frames 3 { limit := 2, source }).1
          = [.ok ⟨"a", 0, .log, [7, 8]⟩, .ok ⟨"é", 0, .command, []⟩] := by
  intro first second store session actions
  have hfile : 0 < session.host.store.nextId := Nat.one_pos
  obtain ⟨-, -, hkept, hframes, hpath⟩ := no_torn_message_is_kept hfile actions
  have haccepted : accepted 0 (run actions session).1 = [second] := rfl
  have hfind : store.find .target "log" = .ok ⟨["work", "log"], some (.file 0), true, false⟩ :=
    Store.find_eq_ok_iff.2 ⟨rfl, Store.walk_last ⟨by decide, by decide, by decide⟩ rfl (by simp)⟩
  have hnode : session.host.store.node true "log" = .ok (.file 0) :=
    Store.node_eq_ok_iff.2 ⟨_, hfind, rfl, by simp⟩
  obtain ⟨source, hsource, hsteady, hcontent⟩ := hpath "log" hnode 1
  have hfirst : (⟨"a", 0, .log, [7, 8]⟩ : Frame).encode = .ok first := rfl
  have hsecond : (⟨"é", 0, .command, []⟩ : Frame).encode = .ok second := rfl
  have hold : List.Forall₂ (IsWire 2) [first] [⟨"a", 0, .log, [7, 8]⟩] :=
    .cons ⟨hfirst, by decide⟩ .nil
  have hnew : List.Forall₂ (IsWire 2) (accepted 0 (run actions session).1) [⟨"é", 0, .command, []⟩] :=
    haccepted ▸ .cons ⟨hsecond, by decide⟩ .nil
  have hread := hframes 2 [first] _ _ rfl hold hnew source hsteady hcontent 3 (by decide)
  exact ⟨hfile, hkept, source, hsource, hread.1⟩

end Session

end Courier.Sink
