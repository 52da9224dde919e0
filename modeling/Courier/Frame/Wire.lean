import Courier.Frame.Basic

/-! # The wire format

`encode` writes a frame as a header of 48 bytes and the payload; `decode` reads one whole message.
The provider id stands in a field of 32 bytes that NUL bytes fill up, so it may hold no NUL itself.
`parseHeader` checks the rules of the header one after the other, and the first one broken is the error;
it reads back every header that `encode` writes (`parseHeader_header_append`).
-/

namespace Courier.Frame

def magic : Bytes := [0x41, 0x43]

def version : UInt8 := 1

/-- The bytes that the header keeps for the provider id. -/
def providerSize : Nat := 32

/-- The payload sizes that the header can announce. -/
def largestPayload : Nat := 4294967295

/-- The limit on payloads where no other is chosen: 16 MiB. -/
def defaultPayloadLimit : Nat := 16777216

/-- A provider id fits the header when it is short enough and has no NUL; its size is returned. -/
def checkProvider (provider : String) : Except Error Nat :=
  let id := Text.utf8 provider
  if id.length > providerSize then
    .error (.invalidProvider s!"{id.length} bytes exceeds the {providerSize}-byte field")
  else if id.contains 0 then .error (.invalidProvider "provider id contains NUL")
  else .ok id.length

/-- The header field of a provider id: its bytes, then NUL bytes. -/
def providerField (provider : String) : Bytes :=
  let id := Text.utf8 provider
  id ++ List.replicate (providerSize - id.length) 0

theorem length_providerField {provider : String} (h : (Text.utf8 provider).length ≤ providerSize) :
    (providerField provider).length = providerSize := by
  simp only [providerField, List.length_append, List.length_replicate]
  omega

theorem takeWhile_providerField {provider : String} (h : 0 ∉ Text.utf8 provider) :
    (providerField provider).takeWhile (· != 0) = Text.utf8 provider := by
  rw [providerField, List.takeWhile_append_of_pos]
  · simp
  · intro byte hbyte
    simp only [bne_iff_ne, ne_eq]
    rintro rfl
    exact h hbyte

def header (frame : Frame) : Bytes :=
  magic ++ [version, frame.kind.tag] ++ providerField frame.provider
    ++ Bytes.littleEndian 8 frame.answerId.toNat ++ Bytes.littleEndian 4 frame.payload.length

theorem length_header {frame : Frame} (h : (Text.utf8 frame.provider).length ≤ providerSize) :
    frame.header.length = headerSize := by
  simp [header, magic, length_providerField h, headerSize, providerSize]

def encode (frame : Frame) : Except Error Bytes :=
  match checkProvider frame.provider with
  | .error error => .error error
  | .ok _ =>
    if frame.payload.length > largestPayload then
      .error (.payloadTooLarge frame.payload.length largestPayload)
    else .ok (header frame ++ frame.payload)

/-- Encodes a frame to the end of a buffer; the buffer stays as it is if the frame is refused. -/
def encodeInto (frame : Frame) (buffer : Bytes) : Except Error Unit × Bytes :=
  match encode frame with
  | .error error => (.error error, buffer)
  | .ok bytes => (.ok (), buffer ++ bytes)

/-- What a header says. -/
structure Header where
  provider : String
  answerId : UInt64
  kind : Kind
  payloadSize : Nat

namespace Header

/-- The frame that a header and a payload make up. -/
def frame (header : Header) (payload : Bytes) : Frame :=
  ⟨header.provider, header.answerId, header.kind, payload⟩

end Header

/-- The provider id in its header field: all before the first NUL. -/
def readProvider? (field : Bytes) : Option String :=
  Text.ofUtf8? (field.takeWhile (· != 0))

/-- The kind that a tag stands for. -/
def readKind (tag : UInt8) : Except Error Kind :=
  match Kind.ofTag? tag with
  | some kind => .ok kind
  | none => .error (.unknownKind tag)

def parseHeader (bytes : Bytes) : Except Error Header :=
  if bytes.shorterThan headerSize then .error (.truncated bytes.length headerSize)
  else if bytes.slice 0 2 ≠ magic then .error .invalidMagic
  else if bytes.getD 2 0 ≠ version then .error (.unsupportedVersion (bytes.getD 2 0))
  else
    match readKind (bytes.getD 3 0), readProvider? (bytes.slice 4 providerSize) with
    | .error error, _ => .error error
    | .ok _, none => .error (.invalidProvider "provider id is not UTF-8")
    | .ok kind, some provider => .ok
      { provider, kind
        answerId := UInt64.ofNat (Bytes.ofLittleEndian (bytes.slice 36 8))
        payloadSize := Bytes.ofLittleEndian (bytes.slice 44 4) }

/-- The header of a frame is read back whatever follows it. -/
theorem parseHeader_header_append (frame : Frame) (rest : Bytes)
    (hsize : (Text.utf8 frame.provider).length ≤ providerSize) (hzero : 0 ∉ Text.utf8 frame.provider)
    (hpayload : frame.payload.length ≤ largestPayload) :
    parseHeader (frame.header ++ rest)
      = .ok ⟨frame.provider, frame.answerId, frame.kind, frame.payload.length⟩ := by
  have hfield := length_providerField hsize
  have hlong : Bytes.shorterThan (frame.header ++ rest) headerSize = false := by
    simp [length_header hsize]
  have hmagic : Bytes.slice (frame.header ++ rest) 0 2 = magic := by
    simp [header, magic, Bytes.slice]
  have hversion : (frame.header ++ rest).getD 2 0 = version := by
    simp [header, magic]
  have htag : (frame.header ++ rest).getD 3 0 = frame.kind.tag := by
    simp [header, magic]
  have hprovider : Bytes.slice (frame.header ++ rest) 4 providerSize = providerField frame.provider := by
    have := Bytes.slice_append_append 4 providerSize (magic ++ [version, frame.kind.tag])
      (providerField frame.provider) (Bytes.littleEndian 8 frame.answerId.toNat
        ++ Bytes.littleEndian 4 frame.payload.length ++ rest) rfl hfield
    simpa [header, List.append_assoc] using this
  have hid : Bytes.slice (frame.header ++ rest) 36 8 = Bytes.littleEndian 8 frame.answerId.toNat := by
    have := Bytes.slice_append_append 36 8
      (magic ++ [version, frame.kind.tag] ++ providerField frame.provider)
      (Bytes.littleEndian 8 frame.answerId.toNat) (Bytes.littleEndian 4 frame.payload.length ++ rest)
      (by simp [magic, hfield, providerSize]) (Bytes.length_littleEndian 8 _)
    simpa [header, List.append_assoc] using this
  have hlength : Bytes.slice (frame.header ++ rest) 44 4
      = Bytes.littleEndian 4 frame.payload.length := by
    have := Bytes.slice_append_append 44 4 (magic ++ [version, frame.kind.tag]
      ++ providerField frame.provider ++ Bytes.littleEndian 8 frame.answerId.toNat)
      (Bytes.littleEndian 4 frame.payload.length) rest
      (by simp [magic, hfield, providerSize]) (Bytes.length_littleEndian 4 _)
    simpa [header, List.append_assoc] using this
  have hkind : readKind frame.kind.tag = .ok frame.kind := by
    simp [readKind, Kind.ofTag?_eq_some_iff.2 rfl]
  have hread : readProvider? (providerField frame.provider) = some frame.provider := by
    simp [readProvider?, takeWhile_providerField hzero, Text.ofUtf8?_utf8]
  have hpayloadBack := Bytes.ofLittleEndian_littleEndian 4 frame.payload.length (by
    simp only [largestPayload] at hpayload
    simp only [Bytes.capacity]
    omega)
  have hidBack := Bytes.ofLittleEndian_littleEndian 8 frame.answerId.toNat (by
    have := frame.answerId.toNat_lt
    simp only [Bytes.capacity]
    omega)
  unfold parseHeader
  rw [hlong, hmagic, hversion, htag, hprovider, hid, hlength]
  simp [hkind, hread, hpayloadBack, hidBack]

/-- Reads a message that is one frame, or empty. -/
def decode (bytes : Bytes) : Except Error View :=
  if bytes.isEmpty then .ok .empty
  else
    match parseHeader bytes with
    | .error error => .error error
    | .ok header =>
      let payload := bytes.drop headerSize
      if header.payloadSize ≠ payload.length then
        .error (.lengthMismatch header.payloadSize payload.length)
      else .ok (header.frame payload).view

end Courier.Frame
