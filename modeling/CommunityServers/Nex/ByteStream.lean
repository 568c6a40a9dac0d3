import CommunityServers.Foundation.LittleEndian
import CommunityServers.Foundation.Reader

/-!
Contract: the byte streams that every NEX format is read from and written to.

Owns:
- the settings of a stream, the bounded reads of `ByteStreamIn` with their
  error texts, and the growing buffer behind `ByteStreamOut`;
- that each read takes back what the matching write appended;
- that a write which grows the buffer by the size of its data appends the data.

Both streams wrap the buffer of another module, `crunch`. Assumed of it: a buffer
over some bytes is read from its start on without changing them; growing appends
zero bytes; a write at the place reached replaces the bytes there, moves that place
behind them, and panics past the end; numbers are little endian.

Does not own: signed and floating-point numbers, the types above the streams, and
the setting of structure headers, which neither messages nor tickets have. A stream
without settings behaves as one with the default settings.
-/

set_option autoImplicit false

namespace CommunityServers.Nex

open CommunityServers.Foundation
open CommunityServers.Foundation.Reader

structure ByteStreamSettings where
  stringLengthSize : Nat
  pidSize : Nat
deriving DecidableEq

def newByteStreamSettings : ByteStreamSettings := ⟨2, 4⟩

/-! ### Input -/

def read (length : Nat) : Reader Bytes := next length "Read is OOB"

def readRemaining : Reader Bytes := Reader.rest

def readUInt8 : Reader UInt8 :=
  fixed 1 "Not enough data to read uint8" fun bytes => bytes.headD 0

def readUInt16LE : Reader UInt16 :=
  fixed 2 "Not enough data to read uint16" fun bytes => UInt16.ofNat (leValue bytes)

def readUInt32LE : Reader UInt32 :=
  fixed 4 "Not enough data to read uint32" fun bytes => UInt32.ofNat (leValue bytes)

def readUInt64LE : Reader UInt64 :=
  fixed 8 "Not enough data to read uint64" fun bytes => UInt64.ofNat (leValue bytes)

def readBool : Reader Bool :=
  fixed 1 "Not enough data to read bool" fun bytes => bytes.headD 0 == 1

/-! ### Output -/

/-- The `crunch` buffer of an output stream: the bytes written so far, and how many
zero bytes it was grown by beyond them. -/
structure ByteStreamOut where
  written : Bytes
  reserved : Nat

namespace ByteStreamOut

def new : ByteStreamOut := ⟨[], 0⟩

def bytes (stream : ByteStreamOut) : Bytes := stream.written ++ List.replicate stream.reserved 0

def grow (stream : ByteStreamOut) (count : Nat) : ByteStreamOut :=
  { stream with reserved := stream.reserved + count }

/-- Writes at the place reached; `none` is the panic of a write past the end of
the buffer. -/
def writeBytesNext (stream : ByteStreamOut) (data : Bytes) : Option ByteStreamOut :=
  if data.length ≤ stream.reserved then
    some ⟨stream.written ++ data, stream.reserved - data.length⟩
  else none

/-- Grows the buffer by the size of the data and writes it. -/
def write (stream : ByteStreamOut) (data : Bytes) : ByteStreamOut :=
  { stream with written := stream.written ++ data }

theorem writeBytesNext_grow (stream : ByteStreamOut) (data : Bytes) :
    (stream.grow data.length).writeBytesNext data = some (stream.write data) := by
  have room : data.length ≤ (stream.grow data.length).reserved := Nat.le_add_left _ _
  rw [writeBytesNext, if_pos room]
  simp [grow, write]

theorem bytes_new_write (data : Bytes) : (new.write data).bytes = data := by
  simp [new, write, bytes]

theorem write_write (stream : ByteStreamOut) (first second : Bytes) :
    (stream.write first).write second = stream.write (first ++ second) := by
  simp [write, List.append_assoc]

end ByteStreamOut

def uint8Bytes (value : UInt8) : Bytes := [value]

def uint16Bytes (value : UInt16) : Bytes := leBytes 2 value.toNat

def uint32Bytes (value : UInt32) : Bytes := leBytes 4 value.toNat

def uint64Bytes (value : UInt64) : Bytes := leBytes 8 value.toNat

def boolBytes (value : Bool) : Bytes := [if value then 1 else 0]

@[simp] theorem uint8Bytes_length (value : UInt8) : (uint8Bytes value).length = 1 := rfl

@[simp] theorem uint16Bytes_length (value : UInt16) : (uint16Bytes value).length = 2 :=
  leBytes_length 2 value.toNat

@[simp] theorem uint32Bytes_length (value : UInt32) : (uint32Bytes value).length = 4 :=
  leBytes_length 4 value.toNat

@[simp] theorem uint64Bytes_length (value : UInt64) : (uint64Bytes value).length = 8 :=
  leBytes_length 8 value.toNat

@[simp] theorem boolBytes_length (value : Bool) : (boolBytes value).length = 1 := rfl

/-! ### Each read takes back its write -/

theorem reads_read {front : Bytes} {length : Nat} (width : front.length = length) :
    Reads (read length) front front :=
  reads_next width _

theorem reads_uint8 (value : UInt8) : Reads readUInt8 (uint8Bytes value) value :=
  reads_fixed rfl rfl

theorem reads_uint16 (value : UInt16) : Reads readUInt16LE (uint16Bytes value) value :=
  reads_fixed (uint16Bytes_length value) (ofNat_leValue_uint16 value)

theorem reads_uint32 (value : UInt32) : Reads readUInt32LE (uint32Bytes value) value :=
  reads_fixed (uint32Bytes_length value) (ofNat_leValue_uint32 value)

theorem reads_uint64 (value : UInt64) : Reads readUInt64LE (uint64Bytes value) value :=
  reads_fixed (uint64Bytes_length value) (ofNat_leValue_uint64 value)

theorem reads_bool (value : Bool) : Reads readBool (boolBytes value) value :=
  reads_fixed rfl (by cases value <;> rfl)

/-! ### Each read takes its width off the front -/

theorem readUInt16LE_eq_ok {value : UInt16} {input left : Bytes} :
    readUInt16LE input = .ok (value, left) ↔ input = uint16Bytes value ++ left := by
  refine fixed_eq_ok uint16Bytes_length ?_ ?_
  · exact ofNat_leValue_uint16
  · exact fun bytes width => leBytes_ofNat_uint16 width

theorem readUInt32LE_eq_ok {value : UInt32} {input left : Bytes} :
    readUInt32LE input = .ok (value, left) ↔ input = uint32Bytes value ++ left := by
  refine fixed_eq_ok uint32Bytes_length ?_ ?_
  · exact ofNat_leValue_uint32
  · exact fun bytes width => leBytes_ofNat_uint32 width

theorem readUInt64LE_eq_ok {value : UInt64} {input left : Bytes} :
    readUInt64LE input = .ok (value, left) ↔ input = uint64Bytes value ++ left := by
  refine fixed_eq_ok uint64Bytes_length ?_ ?_
  · exact ofNat_leValue_uint64
  · exact fun bytes width => leBytes_ofNat_uint64 width

theorem shortens_readUInt8 : Shortens readUInt8 := shortens_fixed Nat.one_pos _ _

theorem shortens_readUInt16LE : Shortens readUInt16LE := shortens_fixed Nat.two_pos _ _

theorem shortens_readUInt32LE : Shortens readUInt32LE := shortens_fixed (by decide) _ _

end CommunityServers.Nex
