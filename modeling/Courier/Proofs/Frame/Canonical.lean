import Courier.Proofs.Frame.Taking
import Mathlib.Data.List.TakeWhile

/-! # Canonical messages

What stands in the provider field after its first NUL is not read, so a frame has many messages that are
decoded to it. One of them is canonical: the one that encoding the frame gives. It differs from the others
in the bytes that are not read, which are zero in it.
-/

namespace Courier.Frame

variable {wire : Bytes} {view : View}

/-- The wire form of the frame that a message is decoded to, and nothing for the empty message. -/
def canonical (wire : Bytes) : Except Error Bytes :=
  match decode wire with
  | .error error => .error error
  | .ok view =>
    match view.toFrame? with
    | none => .ok []
    | some frame => frame.encode

def cleared (field : Bytes) : Bytes :=
  let id := field.takeWhile (· != 0)
  id ++ List.replicate (field.length - id.length) 0

theorem cleared_cons_zero (field : Bytes) : cleared (0 :: field) = List.replicate (field.length + 1) 0 := by
  simp [cleared]

theorem cleared_cons {byte : UInt8} (h : byte ≠ 0) (field : Bytes) :
    cleared (byte :: field) = byte :: cleared field := by
  simp [cleared, h]

@[simp]
theorem length_cleared (field : Bytes) : (cleared field).length = field.length := by
  have hid : (field.takeWhile (· != 0)).length ≤ field.length :=
    (List.takeWhile_prefix _).length_le
  simp only [cleared, List.length_append, List.length_replicate]
  omega

theorem getElem?_cleared_after {field : Bytes} {nul offset : Nat} (hnul : field[nul]? = some 0)
    (hafter : nul < offset) (hoffset : offset < field.length) : (cleared field)[offset]? = some 0 := by
  induction field generalizing nul offset with
  | nil => cases hoffset
  | cons byte field ih =>
    by_cases hbyte : byte = 0
    · subst hbyte
      rw [cleared_cons_zero]
      exact List.getElem?_replicate_of_lt hoffset
    · cases nul with
      | zero => exact absurd (Option.some.inj hnul) hbyte
      | succ nul =>
        cases offset with
        | zero => cases hafter
        | succ offset =>
          rw [cleared_cons hbyte, List.getElem?_cons_succ]
          exact ih hnul (Nat.lt_of_succ_lt_succ hafter) (Nat.lt_of_succ_lt_succ hoffset)

theorem getElem?_cleared_before {field : Bytes} {offset : Nat}
    (h : ∀ nul < offset, field[nul]? ≠ some 0) : (cleared field)[offset]? = field[offset]? := by
  induction field generalizing offset with
  | nil => rfl
  | cons byte field ih =>
    cases offset with
    | zero =>
      by_cases hbyte : byte = 0
      · subst hbyte
        rfl
      · rw [cleared_cons hbyte, List.getElem?_cons_zero, List.getElem?_cons_zero]
    | succ offset =>
      have hbyte : byte ≠ 0 := by
        rintro rfl
        exact h 0 (Nat.succ_pos _) rfl
      rw [cleared_cons hbyte, List.getElem?_cons_succ, List.getElem?_cons_succ]
      exact ih fun nul hnul => h (nul + 1) (Nat.succ_lt_succ hnul)

def Unread (wire : Bytes) (offset : Nat) : Prop :=
  offset < 36 ∧ ∃ nul, 4 ≤ nul ∧ nul < offset ∧ wire[nul]? = some 0

def clearUnread (wire : Bytes) : Bytes :=
  wire.take 4 ++ (cleared (wire.slice 4 32) ++ wire.drop 36)

section Clearing

variable (hlong : 48 ≤ wire.length)

include hlong

theorem length_provider_slice : (wire.slice 4 32).length = 32 := by
  rw [Bytes.slice, List.length_take, List.length_drop]
  omega

theorem length_clearUnread : (clearUnread wire).length = wire.length := by
  simp only [clearUnread, List.length_append, length_cleared, length_provider_slice hlong, List.length_take,
    List.length_drop]
  omega

omit hlong in
theorem getElem?_provider_slice {offset : Nat} (h : offset < 32) :
    (wire.slice 4 32)[offset]? = wire[4 + offset]? := by
  rw [Bytes.slice, List.getElem?_take_of_lt h, List.getElem?_drop]

theorem getElem?_clearUnread_field {offset : Nat} (hstart : 4 ≤ offset) (hend : offset < 36) :
    (clearUnread wire)[offset]? = (cleared (wire.slice 4 32))[offset - 4]? := by
  have hfour : (wire.take 4).length = 4 := by
    rw [List.length_take]
    omega
  have hfield : offset - 4 < (cleared (wire.slice 4 32)).length := by
    rw [length_cleared, length_provider_slice hlong]
    omega
  rw [clearUnread, List.getElem?_append_right (by omega), hfour, List.getElem?_append_left hfield]

theorem getElem?_clearUnread_outside {offset : Nat} (h : offset < 4 ∨ 36 ≤ offset) :
    (clearUnread wire)[offset]? = wire[offset]? := by
  have hfour : (wire.take 4).length = 4 := by
    rw [List.length_take]
    omega
  have hfield := length_provider_slice hlong
  rcases h with hbefore | hafter
  · rw [clearUnread, List.getElem?_append_left (by omega), List.getElem?_take_of_lt hbefore]
  · rw [clearUnread, List.getElem?_append_right (by omega),
      List.getElem?_append_right (by rw [length_cleared]; omega), length_cleared, hfour, hfield,
      List.getElem?_drop]
    congr 1
    omega

theorem getElem?_clearUnread_of_unread {offset : Nat} (h : Unread wire offset) :
    (clearUnread wire)[offset]? = some 0 := by
  obtain ⟨hend, nul, hstart, hafter, hnul⟩ := h
  rw [getElem?_clearUnread_field hlong (by omega) hend]
  have hfield : (wire.slice 4 32)[nul - 4]? = some 0 := by
    rw [getElem?_provider_slice (by omega), Nat.add_sub_cancel' hstart, hnul]
  exact getElem?_cleared_after hfield (by omega) (by rw [length_provider_slice hlong]; omega)

theorem getElem?_clearUnread_of_read {offset : Nat} (h : ¬ Unread wire offset) :
    (clearUnread wire)[offset]? = wire[offset]? := by
  by_cases hoffset : offset < 4 ∨ 36 ≤ offset
  · exact getElem?_clearUnread_outside hlong hoffset
  · rw [getElem?_clearUnread_field hlong (by omega) (by omega), getElem?_cleared_before,
      getElem?_provider_slice (by omega)]
    · congr 1
      omega
    · intro nul hnul hzero
      rw [getElem?_provider_slice (by omega)] at hzero
      exact h ⟨by omega, 4 + nul, by omega, by omega, hzero⟩

theorem clearUnread_eq_self_iff :
    clearUnread wire = wire ↔ ∀ offset, Unread wire offset → wire[offset]? = some 0 := by
  constructor
  · intro h offset hoffset
    rw [← getElem?_clearUnread_of_unread hlong hoffset, h]
  · intro h
    apply List.ext_getElem?
    intro offset
    by_cases hoffset : Unread wire offset
    · rw [getElem?_clearUnread_of_unread hlong hoffset, h offset hoffset]
    · exact getElem?_clearUnread_of_read hlong hoffset

end Clearing

theorem declaredSize_le (bytes : Bytes) : declaredSize bytes ≤ 4294967295 := by
  have hfirst := (bytes.getD 44 0).toNat_lt
  have hsecond := (bytes.getD 45 0).toNat_lt
  have hthird := (bytes.getD 46 0).toNat_lt
  have hfourth := (bytes.getD 47 0).toNat_lt
  rw [declaredSize]
  omega

theorem take_four_of_hasHeader {kind : Kind} (h : HasHeader wire) (hkind : wire[3]? = some kind.tag) :
    wire.take 4 = magic ++ [version, kind.tag] := by
  obtain ⟨hfirst, hsecond⟩ : wire[0]? = some 0x41 ∧ wire[1]? = some 0x43 := h .magic (by decide)
  have hthird : wire[2]? = some 1 := h .version (by decide)
  apply List.ext_getElem?
  intro offset
  rcases offset with _ | _ | _ | _ | offset
  · rw [List.getElem?_take_of_lt (by decide), hfirst]
    rfl
  · rw [List.getElem?_take_of_lt (by decide), hsecond]
    rfl
  · rw [List.getElem?_take_of_lt (by decide), hthird]
    rfl
  · rw [List.getElem?_take_of_lt (by decide), hkind]
    rfl
  · rw [List.getElem?_eq_none, List.getElem?_eq_none]
    · simp [magic]
    · rw [List.length_take]
      omega

/-- What is decoded can be encoded, and only the bytes that are not read come out changed. -/
theorem encode_of_decode {frame : Frame} (h : decode wire = .ok frame.view) :
    frame.encode = .ok (clearUnread wire) := by
  obtain ⟨header, hparse, hsize, rfl⟩ := decode_eq_view_iff.1 h
  have hlong := length_of_parseHeader hparse
  obtain ⟨hvalid, hdeclared⟩ := hasHeader_of_parseHeader hparse
  obtain ⟨read, hread, hfrom⟩ := parseHeader_of_holds hvalid
  obtain rfl := Except.ok.inj (hparse.symm.trans hread)
  have hfield := length_provider_slice hlong
  have hpayload : (wire.drop 48).length = declaredSize wire := by
    rw [List.length_drop, ← hsize, hdeclared]
  have hprovider : providerField header.provider = cleared (wire.slice 4 32) := by
    simp only [providerField, cleared, hfrom.provider, hfield, providerSize]
    rfl
  have hid : Bytes.littleEndian 8 header.answerId.toNat = wire.slice 36 8 := by
    have hback := Bytes.littleEndian_ofLittleEndian (wire.slice 36 8)
    have hwidth : (wire.slice 36 8).length = 8 := by
      rw [Bytes.slice, List.length_take, List.length_drop]
      omega
    rw [hwidth] at hback
    rw [hfrom.answerId]
    exact hback
  have hcount : Bytes.littleEndian 4 (wire.drop 48).length = wire.slice 44 4 := by
    have hback := Bytes.littleEndian_ofLittleEndian (wire.slice 44 4)
    have hwidth : (wire.slice 44 4).length = 4 := by
      rw [Bytes.slice, List.length_take, List.length_drop]
      omega
    rw [hwidth, ofLittleEndian_slice_size hlong] at hback
    rw [hpayload]
    exact hback
  have htail : wire.slice 36 8 ++ (wire.slice 44 4 ++ wire.drop 48) = wire.drop 36 := by
    have hlast : wire.slice 44 4 ++ wire.drop 48 = wire.drop 44 := by
      rw [← List.drop_drop (i := 4) (j := 44)]
      exact List.take_append_drop 4 (wire.drop 44)
    rw [hlast, ← List.drop_drop (i := 8) (j := 36)]
    exact List.take_append_drop 8 (wire.drop 36)
  have hbytes : (header.frame (wire.drop 48)).header ++ wire.drop 48 = clearUnread wire := by
    have hstart := take_four_of_hasHeader hvalid hfrom.kind
    simp only [Frame.header, Header.frame, ← hstart, hprovider, hid, hcount, clearUnread, List.append_assoc,
      htail]
  refine encode_eq_ok_iff.2 ⟨⟨?_, ?_, ?_⟩, hbytes.symm⟩
  · show (Text.utf8 header.provider).length ≤ 32
    rw [hfrom.provider, ← hfield]
    exact (List.takeWhile_prefix _).length_le
  · show 0 ∉ Text.utf8 header.provider
    rw [hfrom.provider]
    intro hzero
    have hne := List.mem_takeWhile_imp hzero
    simp at hne
  · show (wire.drop 48).length ≤ 4294967295
    rw [hpayload]
    exact declaredSize_le wire

theorem exists_frame_of_decode (hne : wire ≠ []) (h : decode wire = .ok view) :
    ∃ frame : Frame, view = frame.view := by
  cases hparse : parseHeader wire with
  | error error => simp [decode_of_parseHeader_error hne hparse] at h
  | ok header =>
    rw [decode_of_parseHeader_ok hne hparse] at h
    split at h
    · exact ⟨_, (Except.ok.inj h).symm⟩
    · cases h

theorem length_of_decode (hne : wire ≠ []) (h : decode wire = .ok view) : 48 ≤ wire.length :=
  holds_of_decode hne h .complete

theorem canonical_of_decode {frame : Frame} (h : decode wire = .ok frame.view) :
    canonical wire = frame.encode := by
  rw [canonical, h]
  rfl

/-- A message that is not empty and its canonical form have the same length and the same frame, and differ
only after the first NUL of the provider field. -/
theorem canonical_form_of_decoded (hne : wire ≠ []) (hview : decode wire = .ok view) :
    ∃ frame again, view.toFrame? = some frame ∧ frame.encode = .ok again ∧ canonical wire = .ok again ∧
      again.length = wire.length ∧ decode again = .ok view ∧
      (∀ offset, ¬ Unread wire offset → again[offset]? = wire[offset]?) ∧
      (∀ offset, Unread wire offset → again[offset]? = some 0) ∧
      (again = wire ↔ ∀ offset, Unread wire offset → wire[offset]? = some 0) ∧
      canonical again = .ok again ∧
      ∀ other seen, other ≠ [] → decode other = .ok seen → (seen = view ↔ canonical other = .ok again) := by
  obtain ⟨frame, rfl⟩ := exists_frame_of_decode hne hview
  have hlong := length_of_decode hne hview
  have hagain := encode_of_decode hview
  have hback := decode_of_encode hagain
  refine ⟨frame, clearUnread wire, rfl, hagain, (canonical_of_decode hview).trans hagain,
    length_clearUnread hlong, hback, fun _ => getElem?_clearUnread_of_read hlong,
    fun _ => getElem?_clearUnread_of_unread hlong, clearUnread_eq_self_iff hlong,
    (canonical_of_decode hback).trans hagain, ?_⟩
  intro other seen hother hseen
  obtain ⟨found, rfl⟩ := exists_frame_of_decode hother hseen
  rw [canonical_of_decode hseen]
  constructor
  · intro heq
    rw [← hagain, view_injective heq]
  · intro hsame
    exact Except.ok.inj ((decode_of_encode hsame).symm.trans hback)

/-- A frame whose provider field holds a byte after its first NUL. -/
theorem canonical_form_of_padded :
    let wire : Bytes := [0x41, 0x43, 1, 0, 0x61, 0, 0xFF] ++ List.replicate 37 0 ++ [1, 0, 0, 0, 7]
    wire ≠ [] ∧ decode wire = .ok (Frame.view ⟨"a", 0, .log, [7]⟩) ∧ Unread wire 6 ∧
      canonical wire ≠ .ok wire ∧ canonical wire = Frame.encode ⟨"a", 0, .log, [7]⟩ := by
  intro wire
  have hne : wire ≠ [] := by decide
  have hview : decode wire = .ok (Frame.view ⟨"a", 0, .log, [7]⟩) := by decide +kernel
  have hunread : Unread wire 6 := ⟨by decide, 5, by decide, by decide, by decide⟩
  obtain ⟨frame, again, hframe, hencode, hcanonical, -, -, -, hzeros, -, -, -⟩ :=
    canonical_form_of_decoded hne hview
  refine ⟨hne, hview, hunread, ?_, ?_⟩
  · intro hsame
    have hbyte := hzeros 6 hunread
    rw [Except.ok.inj (hcanonical.symm.trans hsame)] at hbyte
    exact absurd hbyte (by decide)
  · obtain rfl := Option.some.inj hframe
    exact hcanonical.trans hencode.symm

end Courier.Frame
