import Courier.Cli.Output
import Courier.Proofs.Text.Objects
import Mathlib.Data.List.Forall2

/-! # Frames as lines of JSON

Frames that are printed in JSON take one line each, whatever their peers have put into them: every line ends with a
line feed, has none before it, and is read back as an object that tells of its frame
(`frames_are_faithful_lines`).
-/

namespace Courier

namespace Text

theorem utf8_eq_flatMap (text : String) : utf8 text = text.toList.flatMap String.utf8EncodeChar := by
  rw [utf8, ← String.utf8Encode_toList, List.utf8Encode]
  simp

theorem eq_of_ten_eq_ofNat {n : Nat} (h : 10 = UInt8.ofNat n) (hbyte : n < 256) : n = 10 := by
  have hcode := congrArg UInt8.toNat h
  rw [UInt8.toNat_ofNat', Nat.mod_eq_of_lt hbyte] at hcode
  exact hcode.symm

/-- The byte of the line feed is found in no other character, since longer forms have large bytes only. -/
theorem eq_newline_of_mem_utf8EncodeChar {c : Char} (h : 10 ∈ String.utf8EncodeChar c) : c = '\n' := by
  have hlarge {n : Nat} (hlow : 128 ≤ n) (hhigh : n < 256) : 10 ≠ UInt8.ofNat n := fun heq =>
    absurd (eq_of_ten_eq_ofNat heq hhigh) (by omega)
  rw [String.utf8EncodeChar] at h
  split_ifs at h with hascii
  · exact Char.toNat_inj.1 (eq_of_ten_eq_ofNat (List.mem_singleton.1 h) (Nat.lt_of_le_of_lt hascii (by decide)))
  all_goals
    simp only [List.mem_cons, List.not_mem_nil, or_false] at h
  · rcases h with h | h <;> exact absurd h (hlarge (by omega) (by omega))
  · rcases h with h | h | h <;> exact absurd h (hlarge (by omega) (by omega))
  · rcases h with h | h | h | h <;> exact absurd h (hlarge (by omega) (by omega))

theorem newline_mem_utf8_iff {text : String} : 10 ∈ utf8 text ↔ '\n' ∈ text.toList := by
  rw [utf8_eq_flatMap, List.mem_flatMap]
  constructor
  · rintro ⟨c, hc, hbyte⟩
    rwa [← eq_newline_of_mem_utf8EncodeChar hbyte]
  · exact fun h => ⟨'\n', h, by decide⟩

end Text

namespace Cli

open Text.Json (Scalar readObject?)

/-- What stands for a payload: its text, or how many bytes it has. -/
inductive Shows (frame : Frame) : String → Prop
  | text {text : String} (hkind : frame.kind ≠ .segment) (htext : Text.utf8 text = frame.payload) :
      Shows frame text
  | binary (hbinary : frame.kind = .segment ∨ ∀ text, Text.utf8 text ≠ frame.payload) :
      Shows frame ("<binary " ++ toString frame.payload.length ++ " bytes>")

/-- The fields of an object are about a frame from a queue, and none has its name twice. -/
structure Tells (queue : String) (frame : Frame) (fields : List (String × Scalar)) : Prop where
  kind : ∀ other : Frame.Kind, fields.lookup "kind" = some (.text other.name) ↔ other = frame.kind
  provider : fields.lookup "provider_id" = some (.text frame.provider)
  answerId : fields.lookup "answer_id" = some (.number frame.answerId.toNat)
  payloadSize : fields.lookup "payload_size" = some (.number frame.payload.length)
  payload : ∃ shown, fields.lookup "payload" = some (.text shown) ∧ Shows frame shown
  queue : fields.lookup "queue" = some (.text queue)
  names : (fields.map Prod.fst).Nodup

theorem shows_preview (frame : Frame) : Shows frame (preview frame.kind frame.payload) := by
  rw [preview]
  cases htext : Text.ofUtf8? frame.payload with
  | none =>
    refine .binary (.inr fun text hpayload => ?_)
    cases htext.symm.trans (Text.ofUtf8?_eq_some_iff.2 hpayload)
  | some text =>
    dsimp only
    by_cases hkind : frame.kind = .segment
    · rw [if_neg (mt Frame.Kind.isText_eq_true_iff.1 (not_not_intro hkind))]
      exact .binary (.inl hkind)
    · rw [if_pos (Frame.Kind.isText_eq_true_iff.2 hkind)]
      exact .text hkind (Text.ofUtf8?_eq_some_iff.1 htext)

theorem some_name_eq_iff {kind other : Frame.Kind} :
    some (Scalar.text kind.name) = some (.text other.name) ↔ other = kind := by
  rw [Option.some.injEq, Scalar.text.injEq, Frame.Kind.name_injective.eq_iff, eq_comm]

theorem tells_frameFields (now : Nat) (queue : String) (frame : Frame) :
    Tells queue frame (frameFields now queue frame) where
  kind _ := some_name_eq_iff
  provider := rfl
  answerId := rfl
  payloadSize := rfl
  payload := ⟨_, rfl, shows_preview frame⟩
  queue := rfl
  names := by simp [frameFields]

def printFrames (format : Format) (queue : String) (frames : List (Nat × Frame)) : Bytes :=
  frames.flatMap fun (now, frame) => printFrame format now queue frame

/-- The text of the line of a frame, without the line feed that ends it. -/
def frameLine (queue : String) (stamped : Nat × Frame) : String :=
  Text.Json.renderObject (frameFields stamped.1 queue stamped.2)

theorem line_eq (text : String) : line text = Text.utf8 text ++ [10] := by
  have hnewline : Text.utf8 "\n" = [10] := by decide
  rw [line, Text.utf8_append, hnewline]

theorem printFrame_json (now : Nat) (queue : String) (frame : Frame) :
    printFrame .json now queue frame = Text.utf8 (frameLine queue (now, frame)) ++ [10] := by
  rw [printFrame, line_eq, frameLine]

theorem printFrames_json (queue : String) (frames : List (Nat × Frame)) : printFrames .json queue frames
    = (frames.map (frameLine queue)).flatMap fun line => Text.utf8 line ++ [10] := by
  simp only [printFrames, List.flatMap_map, printFrame_json]

theorem newline_notMem_utf8_renderObject (fields : List (String × Scalar)) :
    10 ∉ Text.utf8 (Text.Json.renderObject fields) := by
  rw [Text.newline_mem_utf8_iff]
  exact Text.Json.newline_notMem_renderObject fields

theorem count_newline_lines {lines : List String} (h : ∀ line ∈ lines, 10 ∉ Text.utf8 line) :
    (lines.flatMap fun line => Text.utf8 line ++ [10]).count 10 = lines.length := by
  induction lines with
  | nil => rfl
  | cons line lines ih =>
    have hline := List.count_eq_zero.2 (h line (by simp))
    have hrest := ih fun other hmem => h other (List.mem_cons_of_mem _ hmem)
    simp [hline, hrest]

/-- Whatever frames are printed in JSON, one after another and each at its time, one line is printed for each of
them: it ends with a line feed, and there are no others. Each line is read as an object that tells the kind, the
peer, the answer id and the size of its frame and the queue that it came from, and shows the payload as a text if
the kind has texts and the bytes are one, else as a number of bytes. -/
theorem frames_are_faithful_lines (queue : String) (frames : List (Nat × Frame)) :
    let output := printFrames .json queue frames
    ∃ lines : List String, output = lines.flatMap (fun line => Text.utf8 line ++ [10]) ∧
      (∀ line ∈ lines, 10 ∉ Text.utf8 line) ∧ output.count 10 = frames.length ∧
      List.Forall₂ (fun stamped line => ∃ fields, readObject? line = some fields ∧ Tells queue stamped.2 fields)
        frames lines := by
  intro output
  have hlines : ∀ line ∈ frames.map (frameLine queue), 10 ∉ Text.utf8 line :=
    List.forall_mem_map.2 fun _ _ => newline_notMem_utf8_renderObject _
  refine ⟨frames.map (frameLine queue), printFrames_json queue frames, hlines, ?_, ?_⟩
  · rw [show output = _ from printFrames_json queue frames, count_newline_lines hlines, List.length_map]
  · rw [List.forall₂_map_right_iff, List.forall₂_same]
    exact fun stamped _ => ⟨_, Text.Json.readObject?_renderObject _, tells_frameFields _ queue stamped.2⟩

/-- A log line with a line feed in its peer, and measurements whose bytes are a text. -/
theorem frames_are_faithful_lines_of_two :
    let frames : List (Nat × Frame) := [(7, ⟨"a\n", 1, .log, [0x68, 0x69]⟩), (8, ⟨"b", 2, .segment, [0x68]⟩)]
    let output := printFrames .json "box" frames
    output = Text.utf8 ("\x7b\"kind\":\"LOG\",\"provider_id\":\"a\\n\",\"answer_id\":1,\"payload_size\":2,"
        ++ "\"payload\":\"hi\",\"queue\":\"box\",\"timestamp\":\"7\"\x7d\n"
        ++ "\x7b\"kind\":\"SEGMENT\",\"provider_id\":\"b\",\"answer_id\":2,\"payload_size\":1,"
        ++ "\"payload\":\"<binary 1 bytes>\",\"queue\":\"box\",\"timestamp\":\"8\"\x7d\n") ∧
      output.count 10 = 2 := by
  intro frames output
  obtain ⟨-, -, -, hcount, -⟩ := frames_are_faithful_lines "box" frames
  exact ⟨by decide +kernel, hcount⟩

end Cli

end Courier
