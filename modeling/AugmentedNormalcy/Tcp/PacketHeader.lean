import AugmentedNormalcy.Foundation.Bytes

/-!
# The packet header

`PacketHeader` of `src/internal/infrastructure/tcp/tcp_utils.hpp`. Its fields share their storage
with the bytes `_data` that go over the wire, so a field here is a little-endian read of `data`, and
an assignment to a field is a store of bytes. The counters have the widths of the source:
`_bytes_written` has 64 bits, of which `BytesWritten` returns the low 32.
-/

namespace AugmentedNormalcy.Tcp

open Bytes

/-- The members that the sender and the receiver use. -/
structure PacketHeader where
  /-- `_data`, of which the first 24 bytes are read and written. -/
  data : Memory
  bytes_written : ℕ
  recall_packet_number : ℕ

namespace PacketHeader

/-- `MaxSize`. -/
def MaxSize : ℕ := 65536

/-- `Size()`. -/
def size : ℕ := 24

/-- The header as it is constructed. -/
def initial : PacketHeader := ⟨fun _ => 0, 0, 0⟩

/-! ## The fields -/

/-- The field `_front`. -/
def front (h : PacketHeader) : ℕ := readLE h.data 0 4

/-- The field `_sequence_number`. -/
def sequence_number (h : PacketHeader) : ℕ := readLE h.data 6 2

/-- The field `_session_number`. -/
def session_number (h : PacketHeader) : ℕ := readLE h.data 8 2

/-- The field `_timestamp`. -/
def timestamp (h : PacketHeader) : ℕ := readLE h.data 10 2

/-- The field `_data_length`. -/
def data_length (h : PacketHeader) : ℕ := readLE h.data 12 4

/-- The field `_total_bytes`. -/
def total_bytes (h : PacketHeader) : ℕ := readLE h.data 16 4

/-- The field `_back`. -/
def back (h : PacketHeader) : ℕ := readLE h.data 20 4

/-- Assigns a value to the field of `k` bytes at `off`. -/
def setField (h : PacketHeader) (off k value : ℕ) : PacketHeader :=
  { h with data := overwrite h.data off (leBytes k value) }

/-- Writes the field `_packet_number`. -/
def setPacketNumber (h : PacketHeader) (value : ℕ) : PacketHeader := h.setField 4 2 value

/-- Writes the field `_sequence_number`. -/
def setSequenceNumber (h : PacketHeader) (value : ℕ) : PacketHeader := h.setField 6 2 value

/-- Writes the field `_data_length`. -/
def setDataLength (h : PacketHeader) (value : ℕ) : PacketHeader := h.setField 12 4 value

/-- Writes the field `_total_bytes`. -/
def setTotalBytes (h : PacketHeader) (value : ℕ) : PacketHeader := h.setField 16 4 value

/-! ## The member functions -/

/-- `DataLength`. -/
def dataLength (h : PacketHeader) : ℕ := h.data_length

/-- `BytesWritten`, which returns 32 bits. -/
def bytesWritten (h : PacketHeader) : ℕ := h.bytes_written % 2 ^ 32

/-- `OffsetPacket`. -/
def offsetPacket (h : PacketHeader) (bytes_written : ℕ) : PacketHeader :=
  let h := h.setDataLength ((h.data_length + 2 ^ 32 - bytes_written % 2 ^ 32) % 2 ^ 32)
  { h with bytes_written := (h.bytes_written + bytes_written) % 2 ^ 64 }

/-- `IsFinished`, which adds `_data_length` to `_bytes_written` before it compares. -/
def isFinished (h : PacketHeader) : PacketHeader × Bool :=
  let h := { h with bytes_written := (h.bytes_written + h.data_length) % 2 ^ 64 }
  (h, decide (h.total_bytes ≤ h.bytes_written))

/-- `SetupHeader`. -/
def setupHeader (h : PacketHeader) (total_bytes : ℕ) : PacketHeader :=
  let h : PacketHeader := { h with data := fun _ => 0 }
  let h := { h with recall_packet_number := (h.recall_packet_number + 1) % 2 ^ 16 }
  let h := h.setPacketNumber h.recall_packet_number
  let h := h.setTotalBytes total_bytes
  let h := { h with bytes_written := 0 }
  h.setDataLength (min total_bytes MaxSize)

/-- `SetupNextHeader`. -/
def setupNextHeader (h : PacketHeader) : PacketHeader :=
  let h := h.setSequenceNumber (h.sequence_number + 1)
  h.setDataLength (min ((h.total_bytes + 2 ^ 64 - h.bytes_written) % 2 ^ 64) MaxSize)

/-- `Ok`. -/
def ok (h : PacketHeader) : Bool := h.front == 0 && h.back == 0

/-- `ResetHeader`. -/
def resetHeader (h : PacketHeader) : PacketHeader := { h with bytes_written := 0 }

/-! ## What an assignment changes -/

/-- Writing a field leaves the count of bytes written alone. -/
@[simp]
theorem setField_bytes_written (h : PacketHeader) (off k value : ℕ) :
    (h.setField off k value).bytes_written = h.bytes_written := rfl

/-- The field that is assigned has the value, as far as it has the bytes for it. -/
theorem readLE_setField_self (h : PacketHeader) (off k value : ℕ) :
    readLE (h.setField off k value).data off k = value % 256 ^ k :=
  readLE_overwrite_self _ _ _ _

/-- Every other field keeps its value. -/
theorem readLE_setField_of_disjoint (h : PacketHeader) {off k off' k' : ℕ} (value : ℕ)
    (hd : off' + k' ≤ off ∨ off + k ≤ off') :
    readLE (h.setField off k value).data off' k' = readLE h.data off' k' := by
  refine readLE_overwrite_of_disjoint ?_
  rw [length_leBytes]
  exact hd

/-- The data length has 32 bits. -/
theorem data_length_lt (h : PacketHeader) : h.data_length < 2 ^ 32 := readLE_lt _ _ _

/-- So has the total. -/
theorem total_bytes_lt (h : PacketHeader) : h.total_bytes < 2 ^ 32 := readLE_lt _ _ _

/-- What is read back is the value on 32 bits. -/
@[simp]
theorem data_length_setDataLength (h : PacketHeader) (value : ℕ) :
    (h.setDataLength value).data_length = value % 2 ^ 32 :=
  h.readLE_setField_self 12 4 value

/-- And the total stays. -/
@[simp]
theorem total_bytes_setDataLength (h : PacketHeader) (value : ℕ) :
    (h.setDataLength value).total_bytes = h.total_bytes :=
  h.readLE_setField_of_disjoint value (Or.inr (by norm_num))

/-- `OffsetPacket` moves bytes from the rest of the packet to what has been written. -/
theorem offsetPacket_spec (h : PacketHeader) {n : ℕ} (hn : n ≤ h.data_length)
    (hw : h.bytes_written + n < 2 ^ 64) :
    (h.offsetPacket n).data_length = h.data_length - n ∧
      (h.offsetPacket n).bytes_written = h.bytes_written + n ∧
      (h.offsetPacket n).total_bytes = h.total_bytes ∧
      (h.offsetPacket n).data = overwrite h.data 12 (leBytes 4 (h.data_length - n)) := by
  have hlt := h.data_length_lt
  have hval : (h.data_length + 2 ^ 32 - n % 2 ^ 32) % 2 ^ 32 = h.data_length - n := by omega
  refine ⟨?_, ?_, ?_, ?_⟩
  · change (h.setDataLength _).data_length = _
    rw [data_length_setDataLength, hval]
    omega
  · change (h.bytes_written + n) % 2 ^ 64 = _
    omega
  · exact h.total_bytes_setDataLength _
  · change overwrite h.data 12 (leBytes 4 _) = _
    rw [hval]

/-- `SetupHeader` describes the first packet of a message of `n` bytes. -/
theorem setupHeader_spec (h : PacketHeader) (n : ℕ) :
    (h.setupHeader n).bytes_written = 0 ∧ (h.setupHeader n).data_length = min n MaxSize ∧
      (h.setupHeader n).total_bytes = n % 2 ^ 32 ∧ (h.setupHeader n).front = 0 ∧
      (h.setupHeader n).back = 0 := by
  have hmin : min n MaxSize % 2 ^ 32 = min n MaxSize := by
    unfold MaxSize
    omega
  refine ⟨rfl, ?_, ?_, ?_, ?_⟩
  · change (PacketHeader.setDataLength _ _).data_length = _
    rw [data_length_setDataLength, hmin]
  · change (PacketHeader.setDataLength _ _).total_bytes = _
    rw [total_bytes_setDataLength]
    exact readLE_setField_self _ 16 4 n
  · unfold front setupHeader setDataLength setTotalBytes setPacketNumber
    rw [readLE_setField_of_disjoint _ _ (by omega)]
    refine (readLE_setField_of_disjoint _ _ (by omega)).trans ?_
    exact (readLE_setField_of_disjoint _ _ (by omega)).trans rfl
  · unfold back setupHeader setDataLength setTotalBytes setPacketNumber
    rw [readLE_setField_of_disjoint _ _ (by omega)]
    refine (readLE_setField_of_disjoint _ _ (by omega)).trans ?_
    exact (readLE_setField_of_disjoint _ _ (by omega)).trans rfl

/-- `SetupNextHeader` describes the next packet of the message. -/
theorem setupNextHeader_spec (h : PacketHeader) (hw : h.bytes_written ≤ h.total_bytes) :
    h.setupNextHeader.bytes_written = h.bytes_written ∧
      h.setupNextHeader.data_length = min (h.total_bytes - h.bytes_written) MaxSize ∧
      h.setupNextHeader.total_bytes = h.total_bytes ∧ h.setupNextHeader.front = h.front ∧
      h.setupNextHeader.back = h.back := by
  have hlt := h.total_bytes_lt
  have htotal : (h.setSequenceNumber (h.sequence_number + 1)).total_bytes = h.total_bytes :=
    h.readLE_setField_of_disjoint _ (by omega)
  refine ⟨rfl, ?_, ?_, ?_, ?_⟩
  · change (PacketHeader.setDataLength _ (min (((h.setSequenceNumber _).total_bytes + 2 ^ 64 -
      h.bytes_written) % 2 ^ 64) MaxSize)).data_length = _
    rw [data_length_setDataLength, htotal]
    unfold MaxSize
    omega
  · change (PacketHeader.setDataLength _ _).total_bytes = _
    rw [total_bytes_setDataLength, htotal]
  · unfold front setupNextHeader setDataLength setSequenceNumber
    rw [readLE_setField_of_disjoint _ _ (by omega), readLE_setField_of_disjoint _ _ (by omega)]
  · unfold back setupNextHeader setDataLength setSequenceNumber
    rw [readLE_setField_of_disjoint _ _ (by omega), readLE_setField_of_disjoint _ _ (by omega)]

/-! ## What the header counts -/

/-- The header is that of a message of `size` bytes, and its packet lies within it. -/
structure Counts (h : PacketHeader) (size : ℕ) : Prop where
  total : h.total_bytes = size
  fits : h.bytes_written + h.data_length ≤ size

namespace Counts

variable {h : PacketHeader} {size : ℕ}

/-- `SetupHeader` counts a body of any size below 2^32. -/
theorem setupHeader (h : PacketHeader) (hsize : size < 2 ^ 32) :
    (h.setupHeader size).Counts size := by
  obtain ⟨hwritten, hlength, htotal, -, -⟩ := h.setupHeader_spec size
  refine ⟨?_, ?_⟩
  · rw [htotal, Nat.mod_eq_of_lt hsize]
  · rw [hwritten, hlength]
    omega

/-- A header only counts bodies of a size below 2^32. -/
theorem size_lt (hc : h.Counts size) : size < 2 ^ 32 := by
  rw [← hc.total]
  exact h.total_bytes_lt

/-- `BytesWritten` returns all of the count. -/
theorem bytesWritten (hc : h.Counts size) : h.bytesWritten = h.bytes_written := by
  have := hc.size_lt
  have := hc.fits
  rw [PacketHeader.bytesWritten]
  omega

/-- A part of a packet. -/
theorem offsetPacket (hc : h.Counts size) {n : ℕ} (hn : n ≤ h.dataLength) :
    (h.offsetPacket n).Counts size ∧ (h.offsetPacket n).bytes_written = h.bytes_written + n := by
  have hsize := hc.size_lt
  have hfits := hc.fits
  change n ≤ h.data_length at hn
  obtain ⟨hlength, hwritten, htotal, -⟩ := h.offsetPacket_spec hn (by omega)
  refine ⟨⟨?_, ?_⟩, hwritten⟩
  · rw [htotal, hc.total]
  · rw [hwritten, hlength]
    omega

/-- What the header counts after the packet, and when the message is complete. -/
theorem isFinished (hc : h.Counts size) :
    h.isFinished.1.bytes_written = h.bytes_written + h.data_length ∧
      (h.isFinished.2 = true ↔ size = h.bytes_written + h.data_length) := by
  have hsize := hc.size_lt
  have hfits := hc.fits
  have hwritten : h.isFinished.1.bytes_written = h.bytes_written + h.data_length := by
    change (h.bytes_written + h.data_length) % 2 ^ 64 = _
    omega
  have hiff : h.isFinished.2 = true ↔ h.total_bytes ≤ h.isFinished.1.bytes_written :=
    decide_eq_true_iff
  refine ⟨hwritten, ?_⟩
  rw [hiff, hwritten, hc.total]
  omega

/-- The next packet says what is left of the message. -/
theorem setupNextHeader (hc : h.Counts size) :
    h.isFinished.1.setupNextHeader.Counts size ∧
      h.isFinished.1.setupNextHeader.bytes_written = h.bytes_written + h.data_length := by
  obtain ⟨hwritten, -⟩ := hc.isFinished
  have hfits := hc.fits
  have htotal : h.isFinished.1.total_bytes = size := hc.total
  obtain ⟨hwritten', hlength, htotal', -, -⟩ :=
    h.isFinished.1.setupNextHeader_spec (by rw [hwritten, htotal]; exact hfits)
  refine ⟨⟨?_, ?_⟩, ?_⟩
  · rw [htotal', htotal]
  · rw [hwritten', hlength, hwritten, htotal]
    omega
  · rw [hwritten', hwritten]

end Counts

end PacketHeader

end AugmentedNormalcy.Tcp
