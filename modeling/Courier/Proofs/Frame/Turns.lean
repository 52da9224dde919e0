import Courier.Frame.Reader
import Courier.Proofs.Frame.FirstFrame

/-! # The turns of a reader

A call of `readFrame` is a loop. Each turn of the loop looks for a frame in the buffer, and only if more
bytes are needed reads once. `readFrame_induct` carries facts about turns over to calls.
-/

namespace Courier.Frame

def readMany : Nat → List ReadEvent → List (Except IoError Bytes) × List ReadEvent
  | 0, source => ([], source)
  | count + 1, source =>
    let later := readMany count (readOnce source).2
    ((readOnce source).1 :: later.1, later.2)

def delivered : List (Except IoError Bytes) → Bytes
  | [] => []
  | .ok bytes :: reads => bytes ++ delivered reads
  | .error _ :: reads => delivered reads

def content : List ReadEvent → Bytes
  | [] => []
  | .data bytes :: source => bytes ++ content source
  | .fail _ :: source => content source

theorem delivered_append (left right : List (Except IoError Bytes)) :
    delivered (left ++ right) = delivered left ++ delivered right := by
  induction left with
  | nil => rfl
  | cons read left ih =>
    cases read with
    | ok bytes => rw [List.cons_append, delivered, ih, delivered, List.append_assoc]
    | error error => rw [List.cons_append, delivered, ih, delivered]

theorem readMany_add (left right : Nat) (source : List ReadEvent) :
    readMany (left + right) source =
      ((readMany left source).1 ++ (readMany right (readMany left source).2).1,
        (readMany right (readMany left source).2).2) := by
  induction left generalizing source with
  | zero => rw [Nat.zero_add]; rfl
  | succ left ih =>
    rw [Nat.add_right_comm, readMany, readMany, ih]
    rfl

theorem readMany_succ (count : Nat) (source : List ReadEvent) :
    readMany (count + 1) source =
      ((readMany count source).1 ++ [(readOnce (readMany count source).2).1],
        (readOnce (readMany count source).2).2) :=
  readMany_add count 1 source

theorem content_readOnce (source : List ReadEvent) :
    delivered [(readOnce source).1] ++ content (readOnce source).2 = content source := by
  match source with
  | [] => rfl
  | .fail error :: source => rfl
  | .data bytes :: source =>
    rw [readOnce]
    split
    · simp only [delivered, content, List.append_nil]
    · simp only [delivered, content, List.append_nil]
      rw [← List.append_assoc, List.take_append_drop]

theorem content_readMany (count : Nat) (source : List ReadEvent) :
    delivered (readMany count source).1 ++ content (readMany count source).2 = content source := by
  induction count with
  | zero => rfl
  | succ count ih =>
    rw [readMany_succ, delivered_append, List.append_assoc, content_readOnce, ih]

theorem length_readOnce {source : List ReadEvent} {bytes : Bytes}
    (h : (readOnce source).1 = .ok bytes) : bytes.length ≤ 8192 := by
  match source with
  | [] =>
    cases h
    exact Nat.zero_le _
  | .fail error :: source => cases h
  | .data data :: source =>
    rw [readOnce] at h
    split at h
    · rename_i hdrop
      cases h
      exact List.drop_eq_nil_iff.1 hdrop
    · cases h
      exact List.length_take_le _ _

theorem length_readMany {count : Nat} {source : List ReadEvent} {bytes : Bytes}
    (h : .ok bytes ∈ (readMany count source).1) : bytes.length ≤ 8192 := by
  induction count generalizing source with
  | zero => cases h
  | succ count ih =>
    rcases List.mem_cons.1 h with hfirst | hlater
    · exact length_readOnce hfirst.symm
    · exact ih hlater

namespace Reader

variable {reader next : Reader} {answer : Except Error Frame}

def fresh (limit : Nat) (source : List ReadEvent) : Reader := { limit, source }

def afterRead (reader : Reader) : Reader :=
  { reader with
    source := (readOnce reader.source).2
    buffer := reader.buffer ++ delivered [(readOnce reader.source).1]
    reads := reader.reads + 1 }

@[simp]
theorem afterRead_limit (reader : Reader) : reader.afterRead.limit = reader.limit := rfl

@[simp]
theorem afterRead_source (reader : Reader) :
    reader.afterRead.source = (readOnce reader.source).2 := rfl

@[simp]
theorem afterRead_buffer (reader : Reader) :
    reader.afterRead.buffer = reader.buffer ++ delivered [(readOnce reader.source).1] := rfl

@[simp]
theorem afterRead_reads (reader : Reader) : reader.afterRead.reads = reader.reads + 1 := rfl

/-- Whether a call goes on after a read: it delivered bytes or was only interrupted. -/
def goesOn : Except IoError Bytes → Bool
  | .ok bytes => !bytes.isEmpty
  | .error error => error.isInterrupted

def stopped : Except IoError Bytes → Error
  | .ok _ => .connectionClosed
  | .error error => .io error

/-- One turn of the loop of `readFrame`: its answer if the call ends with it, and the reader after it. -/
def turn (reader : Reader) : Option (Except Error Frame) × Reader :=
  match take? reader.limit reader.buffer with
  | .error error => (some (.error error), reader)
  | .ok (some (frame, rest)) => (some (.ok frame), { reader with buffer := rest })
  | .ok none =>
    if goesOn (readOnce reader.source).1 then (none, reader.afterRead)
    else (some (.error (stopped (readOnce reader.source).1)), reader.afterRead)

theorem turn_cases (h : reader.turn = (some answer, next)) :
    (∃ frame rest, take? reader.limit reader.buffer = .ok (some (frame, rest)) ∧
      answer = .ok frame ∧ next = { reader with buffer := rest }) ∨
    (∃ error, take? reader.limit reader.buffer = .error error ∧ answer = .error error ∧
      next = reader) ∨
    (take? reader.limit reader.buffer = .ok none ∧ goesOn (readOnce reader.source).1 = false ∧
      answer = .error (stopped (readOnce reader.source).1) ∧ next = reader.afterRead) := by
  unfold turn at h
  split at h
  · rename_i error htake
    cases h
    exact .inr (.inl ⟨error, htake, rfl, rfl⟩)
  · rename_i frame rest htake
    cases h
    exact .inl ⟨frame, rest, htake, rfl, rfl⟩
  · rename_i htake
    split at h
    · cases h
    · rename_i hstop
      cases h
      exact .inr (.inr ⟨htake, Bool.eq_false_iff.2 hstop, rfl, rfl⟩)

theorem turn_eq_none_iff :
    reader.turn = (none, next) ↔
      take? reader.limit reader.buffer = .ok none ∧ goesOn (readOnce reader.source).1 = true ∧
        next = reader.afterRead := by
  unfold turn
  constructor
  · intro h
    split at h
    · cases h
    · cases h
    · rename_i htake
      split at h
      · rename_i hgoes
        cases h
        exact ⟨htake, hgoes, rfl⟩
      · cases h
  · rintro ⟨htake, hgoes, rfl⟩
    rw [htake]
    simp only [if_pos hgoes]

theorem readFrame_eq_turn (reader : Reader) :
    reader.readFrame =
      match reader.turn with
      | (some answer, next) => (answer, next)
      | (none, next) => next.readFrame := by
  rw [readFrame, turn]
  cases htake : take? reader.limit reader.buffer with
  | error error => rfl
  | ok found =>
    cases found with
    | some found => rfl
    | none =>
      simp only
      split
      · rename_i hsource
        simp [hsource, readOnce, goesOn, stopped, afterRead, delivered]
      · rename_i event source hsource
        cases hread : (readOnce (event :: source)).1 with
        | error error =>
          simp only [hsource, hread, goesOn, stopped, afterRead, delivered]
          cases error.isInterrupted <;> simp
        | ok bytes =>
          cases bytes with
          | nil => simp [hsource, hread, goesOn, stopped, afterRead, delivered]
          | cons byte bytes => simp [hsource, hread, goesOn, afterRead, delivered]

/-- Facts about turns hold of calls when the turns that go on hand them back. -/
theorem readFrame_induct {motive : Reader → Except Error Frame → Reader → Prop}
    (stop : ∀ {reader answer next}, reader.turn = (some answer, next) → motive reader answer next)
    (go : ∀ {reader next answer last}, reader.turn = (none, next) → motive next answer last →
      motive reader answer last)
    (reader : Reader) : motive reader reader.readFrame.1 reader.readFrame.2 := by
  -- a turn that goes on has read, so the source has become lighter
  induction hweight : sourceWeight reader.source using Nat.strongRecOn generalizing reader with
  | _ weight ih =>
    rw [readFrame_eq_turn]
    rcases hturn : reader.turn with ⟨_ | answer, next⟩
    · obtain ⟨-, hgoes, rfl⟩ := turn_eq_none_iff.1 hturn
      have hsource : reader.source ≠ [] := by
        intro hnil
        rw [hnil] at hgoes
        cases hgoes
      have hlighter : sourceWeight reader.afterRead.source < weight :=
        hweight ▸ sourceWeight_readOnce hsource
      exact go hturn (ih _ hlighter _ rfl)
    · exact stop hturn

def turns : Nat → Reader → List (Except Error Frame) × Reader
  | 0, reader => ([], reader)
  | count + 1, reader =>
    let later := turns count reader.turn.2
    (reader.turn.1.toList ++ later.1, later.2)

def calls : Nat → Reader → List (Except Error Frame) × Reader
  | 0, reader => ([], reader)
  | count + 1, reader =>
    let later := calls count reader.readFrame.2
    (reader.readFrame.1 :: later.1, later.2)

theorem turns_add (left right : Nat) (reader : Reader) :
    turns (left + right) reader =
      ((turns left reader).1 ++ (turns right (turns left reader).2).1,
        (turns right (turns left reader).2).2) := by
  induction left generalizing reader with
  | zero => rw [Nat.zero_add]; rfl
  | succ left ih =>
    rw [Nat.add_right_comm, turns, turns, ih, ← List.append_assoc]

theorem turns_succ (count : Nat) (reader : Reader) :
    turns (count + 1) reader =
      ((turns count reader).1 ++ (turns count reader).2.turn.1.toList,
        (turns count reader).2.turn.2) := by
  rw [turns_add, turns, turns, List.append_nil]

theorem calls_add (left right : Nat) (reader : Reader) :
    calls (left + right) reader =
      ((calls left reader).1 ++ (calls right (calls left reader).2).1,
        (calls right (calls left reader).2).2) := by
  induction left generalizing reader with
  | zero => rw [Nat.zero_add]; rfl
  | succ left ih =>
    rw [Nat.add_right_comm, calls, calls, ih]
    rfl

theorem exists_turns_readFrame (reader : Reader) :
    ∃ count, turns count reader = ([reader.readFrame.1], reader.readFrame.2) := by
  refine readFrame_induct (motive := fun reader answer next =>
    ∃ count, turns count reader = ([answer], next)) ?_ ?_ reader
  · intro reader answer next hturn
    refine ⟨1, ?_⟩
    rw [turns, hturn]
    rfl
  · rintro reader next answer last hturn ⟨count, hcount⟩
    refine ⟨count + 1, ?_⟩
    rw [turns, hturn, hcount]
    rfl

/-- Every point between calls is a point between turns. -/
theorem exists_turns_calls (callCount : Nat) (reader : Reader) :
    ∃ count, turns count reader = calls callCount reader := by
  induction callCount generalizing reader with
  | zero => exact ⟨0, rfl⟩
  | succ callCount ih =>
    obtain ⟨first, hfirst⟩ := exists_turns_readFrame reader
    obtain ⟨later, hlater⟩ := ih reader.readFrame.2
    refine ⟨first + later, ?_⟩
    rw [turns_add, hfirst, hlater]
    rfl

end Reader

end Courier.Frame
