import Courier.Proofs.Cli.Lines
import Courier.Proofs.Text.Tables

/-! # What is printed of a frame that was sent

JSON is one line, read back as an object with everything that is told of the frame. A table leaves out the size of
the payload, a sentence the peer and the answer id as well, and nothing is printed where a payload alone would be
(`printed_told`).
-/

namespace Courier.Cli

open Text.Json (Scalar readObject?)

def told (port transport : String) (frame : Frame) : Report where
  port := port
  transport := transport
  kind := frame.kind.name
  provider := frame.provider
  answerId := frame.answerId
  payloadSize := frame.payload.length
  frameSize := 48 + frame.payload.length

structure Reports (port transport : String) (frame : Frame) (fields : List (String × Scalar)) : Prop where
  port : fields.lookup "port" = some (.text port)
  transport : fields.lookup "transport" = some (.text transport)
  kind : ∀ other : Frame.Kind, fields.lookup "kind" = some (.text other.name) ↔ other = frame.kind
  provider : fields.lookup "provider_id" = some (.text frame.provider)
  answerId : fields.lookup "answer_id" = some (.number frame.answerId.toNat)
  payloadSize : fields.lookup "payload_size" = some (.number frame.payload.length)
  frameSize : fields.lookup "frame_size" = some (.number (48 + frame.payload.length))
  names : (fields.map Prod.fst).Nodup

def reportHeader : List String := ["PORT", "TRANSPORT", "KIND", "PEER", "ANSWER ID", "BYTES"]

def reportCells (port transport : String) (frame : Frame) : List String :=
  [port, transport, frame.kind.name, frame.provider, toString frame.answerId.toNat,
    toString (48 + frame.payload.length)]

inductive Printed (port transport : String) (frame : Frame) : Format → Bytes → Prop
  | json {text : String} {fields : List (String × Scalar)} (hline : 10 ∉ Text.utf8 text)
      (hread : readObject? text = some fields) (hreports : Reports port transport frame fields) :
      Printed port transport frame .json (Text.utf8 text ++ [10])
  /-- Cells that are no lines, or too wide ones, are broken, as in every table. -/
  | table {text : String} (hrendered : text = Text.Boxed.render reportHeader (reportCells port transport frame))
      (htabled : (∀ cell ∈ reportCells port transport frame, Text.Boxed.IsLine cell) →
        Text.Boxed.Tabled reportHeader (reportCells port transport frame) text) :
      Printed port transport frame .table (Text.utf8 text ++ [10])
  | pretty : Printed port transport frame .pretty (Text.utf8 ("sent " ++ frame.kind.name ++ " frame ("
      ++ toString (48 + frame.payload.length) ++ " bytes) to " ++ port ++ " via " ++ transport) ++ [10])
  | raw : Printed port transport frame .raw []

theorem Printed.readObject? {port transport text : String} {frame : Frame}
    (h : Printed port transport frame .json (Text.utf8 text ++ [10])) :
    ∃ fields, Text.Json.readObject? text = some fields ∧ Reports port transport frame fields := by
  generalize hbytes : Text.utf8 text ++ [10] = bytes at h
  cases h with
  | json hline hread hreports =>
    obtain rfl := Text.utf8_injective (List.append_cancel_right hbytes)
    exact ⟨_, hread, hreports⟩

theorem reports_told (port transport : String) (frame : Frame) :
    Reports port transport frame (told port transport frame).fields where
  port := rfl
  transport := rfl
  kind _ := some_name_eq_iff
  provider := rfl
  answerId := rfl
  payloadSize := rfl
  frameSize := rfl
  names := by simp [Report.fields]

theorem isLine_of_mem_reportHeader {cell : String} (h : cell ∈ reportHeader) : Text.Boxed.IsLine cell := by
  simp only [reportHeader, List.mem_cons, List.not_mem_nil, or_false] at h
  rcases h with rfl | rfl | rfl | rfl | rfl | rfl <;> exact ⟨by decide, by decide⟩

theorem printed_told (port transport : String) (frame : Frame) (format : Format) :
    Printed port transport frame format (printReport format (told port transport frame)) := by
  cases format with
  | json =>
    rw [printReport, line_eq]
    exact .json (newline_notMem_utf8_renderObject _) (Text.Json.readObject?_renderObject _)
      (reports_told port transport frame)
  | table =>
    rw [printReport, line_eq]
    exact .table rfl (Text.Boxed.tabled_render (List.cons_ne_nil _ _) rfl fun _ => isLine_of_mem_reportHeader)
  | pretty =>
    rw [printReport, line_eq]
    exact .pretty
  | raw => exact .raw

end Courier.Cli
