/-! # Byte strings

Messages, files and buffers are lists of bytes. Numbers enter them in little-endian form:
`ofLittleEndian_littleEndian` and `littleEndian_ofLittleEndian` say that the byte strings of one width and
the numbers that fit in it determine each other.
-/

namespace Courier

/-- A sequence of bytes, first byte first. -/
abbrev Bytes := List UInt8

namespace Bytes

/-- The bytes from `start` on, at most `size` of them. -/
def slice (bytes : Bytes) (start size : Nat) : Bytes :=
  (bytes.drop start).take size

theorem slice_append_append (start size : Nat) (left middle right : Bytes)
    (hleft : left.length = start) (hmiddle : middle.length = size) :
    slice (left ++ (middle ++ right)) start size = middle := by
  subst hleft hmiddle
  simp [slice]

/-- Whether fewer than `size` bytes are present, found without walking past byte `size`. -/
def shorterThan : Bytes → Nat → Bool
  | _, 0 => false
  | [], _ + 1 => true
  | _ :: rest, size + 1 => shorterThan rest size

@[simp]
theorem shorterThan_iff (bytes : Bytes) (size : Nat) :
    shorterThan bytes size = true ↔ bytes.length < size := by
  induction bytes generalizing size with
  | nil => cases size <;> simp [shorterThan]
  | cons byte rest ih => cases size <;> simp [shorterThan, ih]

@[simp]
theorem shorterThan_eq_false_iff (bytes : Bytes) (size : Nat) :
    shorterThan bytes size = false ↔ size ≤ bytes.length := by
  rw [← Bool.not_eq_true, shorterThan_iff, Nat.not_lt]

/-- The `width` lowest base-256 digits of a number, lowest first. -/
def littleEndian : Nat → Nat → Bytes
  | 0, _ => []
  | width + 1, n => UInt8.ofNat n :: littleEndian width (n / 256)

/-- The number whose base-256 digits are the given bytes, lowest first. -/
def ofLittleEndian : Bytes → Nat
  | [] => 0
  | byte :: rest => byte.toNat + 256 * ofLittleEndian rest

/-- How many numbers fit in a number of bytes. -/
def capacity : Nat → Nat
  | 0 => 1
  | width + 1 => 256 * capacity width

@[simp]
theorem length_littleEndian (width n : Nat) : (littleEndian width n).length = width := by
  induction width generalizing n with
  | zero => rfl
  | succ width ih => simp [littleEndian, ih]

theorem ofLittleEndian_littleEndian (width n : Nat) (h : n < capacity width) :
    ofLittleEndian (littleEndian width n) = n := by
  induction width generalizing n with
  | zero =>
    simp only [capacity] at h
    simp only [littleEndian, ofLittleEndian]
    omega
  | succ width ih =>
    have hdiv : n / 256 < capacity width := Nat.div_lt_of_lt_mul h
    simp only [littleEndian, ofLittleEndian, ih _ hdiv, UInt8.toNat_ofNat']
    omega

theorem ofLittleEndian_lt (bytes : Bytes) : ofLittleEndian bytes < capacity bytes.length := by
  induction bytes with
  | nil => simp [ofLittleEndian, capacity]
  | cons byte rest ih =>
    have hbyte : byte.toNat < 256 := byte.toNat_lt
    simp only [List.length_cons, capacity, ofLittleEndian]
    omega

theorem littleEndian_ofLittleEndian (bytes : Bytes) :
    littleEndian bytes.length (ofLittleEndian bytes) = bytes := by
  induction bytes with
  | nil => rfl
  | cons byte rest ih =>
    have hbyte : byte.toNat < 256 := byte.toNat_lt
    have hhead : UInt8.ofNat (byte.toNat + 256 * ofLittleEndian rest) = byte := by
      apply UInt8.toNat_inj.1
      rw [UInt8.toNat_ofNat']
      omega
    have htail : (byte.toNat + 256 * ofLittleEndian rest) / 256 = ofLittleEndian rest := by omega
    simp only [List.length_cons, ofLittleEndian, littleEndian, hhead, htail, ih]

end Bytes

end Courier
