import AugmentedNormalcy.Foundation.Bytes

/-!
# The packet of the prototype

`BspPacket` of `src/prototype/internal/infrastructure/codec/bsp_packet.hpp`, on a 64-bit build. The
struct is packed, so its members lie behind each other, and the header is what comes before
`data_start`. A pointer is an address in one `Memory`.

The header has 9 bytes, by `HeaderSize` and by the size that `PackFrame` returns; `TryParseFrame`
takes a frame only if it is longer than the struct, which has 17. So a payload of up to 8 bytes is
packed and never parsed (`roundTrips_iff`).
-/

namespace AugmentedNormalcy.Prototype

open Bytes

structure BspPacket where
  id : UInt8
  sequence_number : UInt16
  session_number : UInt16
  timestamp : UInt16
  data_length : UInt16
  data_start : ℕ
deriving DecidableEq, Repr

namespace BspPacket

/-- `sizeof(BspPacket)`. -/
def sizeof : ℕ := 1 + 2 + 2 + 2 + 2 + 8

/-- `HeaderSize`, which takes off `sizeof(uint8_t *)`. -/
def headerSize : ℕ := sizeof - 8

/-- The bytes of the struct. -/
def bytes (p : BspPacket) : List UInt8 :=
  leBytes 1 p.id.toNat ++ (leBytes 2 p.sequence_number.toNat ++ (leBytes 2 p.session_number.toNat ++
    (leBytes 2 p.timestamp.toNat ++ (leBytes 2 p.data_length.toNat ++ leBytes 8 p.data_start))))

/-- The value-initialized packet, after a copy of `HeaderSize` bytes from `buffer`. -/
def copyHeader (memory : Memory) (buffer : ℕ) : BspPacket where
  id := UInt8.ofNat (readLE memory buffer 1)
  sequence_number := UInt16.ofNat (readLE memory (buffer + 1) 2)
  session_number := UInt16.ofNat (readLE memory (buffer + 3) 2)
  timestamp := UInt16.ofNat (readLE memory (buffer + 5) 2)
  data_length := UInt16.ofNat (readLE memory (buffer + 7) 2)
  data_start := 0

/-- `Pack`: the packet and the memory after it. -/
def pack (p : BspPacket) (memory : Memory) (buffer body_size : ℕ) : BspPacket × Memory :=
  let p := { p with data_length := UInt16.ofNat body_size }
  (p, overwrite memory buffer (p.bytes.take headerSize))

/-- `PackFrame`: the packet and the memory after it, and what it returns. -/
def packFrame (p : BspPacket) (payload : List UInt8) (memory : Memory) (buffer : ℕ) :
    BspPacket × Memory × ℕ :=
  let p := { p with data_length := UInt16.ofNat payload.length }
  let memory := overwrite memory buffer (p.bytes.take headerSize)
  let memory := overwrite memory (buffer + headerSize) payload
  (p, memory, sizeof - 8 + payload.length)

/-- `TryParseFrame`. -/
def tryParseFrame (memory : Memory) (buffer frame_size : ℕ) : Option BspPacket :=
  if frame_size ≤ sizeof then none
  else
    let header := copyHeader memory buffer
    -- make sure data length is valid; should be header minus the start ptr
    if header.data_length.toNat ≠ frame_size - headerSize then none
    else some { header with data_start := buffer + headerSize }

/-- `PacketSize`. -/
def packetSize (p : BspPacket) : ℕ := p.data_length.toNat + headerSize

/-! ## The header in memory -/

@[simp]
theorem length_bytes (p : BspPacket) : p.bytes.length = sizeof := by
  simp [bytes, sizeof]

@[simp]
theorem length_header (p : BspPacket) : (p.bytes.take headerSize).length = headerSize := by
  rw [List.length_take, length_bytes]
  rfl

/-- The header is the members before `data_start`. -/
theorem header_eq (p : BspPacket) :
    p.bytes.take headerSize =
      leBytes 1 p.id.toNat ++ (leBytes 2 p.sequence_number.toNat ++
        (leBytes 2 p.session_number.toNat ++ (leBytes 2 p.timestamp.toNat ++
          leBytes 2 p.data_length.toNat))) := by
  unfold bytes
  simp only [← List.append_assoc]
  exact List.take_left' (by simp [headerSize, sizeof])

theorem ofNat_leNat_one (x : UInt8) : UInt8.ofNat (leNat (leBytes 1 x.toNat)) = x := by
  have hx := x.toNat_lt
  rw [leNat_leBytes, Nat.mod_eq_of_lt (by omega), UInt8.ofNat_toNat]

theorem ofNat_leNat_two (x : UInt16) : UInt16.ofNat (leNat (leBytes 2 x.toNat)) = x := by
  have hx := x.toNat_lt
  rw [leNat_leBytes, Nat.mod_eq_of_lt (by omega), UInt16.ofNat_toNat]

/-- Copying the header of a packet copies the packet, but for `data_start`. -/
theorem copyHeader_eq {p : BspPacket} {memory : Memory} {buffer : ℕ}
    (h : slice memory buffer headerSize = p.bytes.take headerSize) :
    copyHeader memory buffer = { p with data_start := 0 } := by
  rw [header_eq] at h
  obtain ⟨hid, h⟩ := slice_eq_append (a := 1) (b := 8) (length_leBytes _ _) h
  obtain ⟨hsequence, h⟩ := slice_eq_append (a := 2) (b := 6) (length_leBytes _ _) h
  obtain ⟨hsession, h⟩ := slice_eq_append (a := 2) (b := 4) (length_leBytes _ _) h
  obtain ⟨htimestamp, hlength⟩ := slice_eq_append (a := 2) (b := 2) (length_leBytes _ _) h
  unfold copyHeader readLE
  rw [hid, hsequence, hsession, htimestamp, hlength]
  simp only [ofNat_leNat_one, ofNat_leNat_two]

/-- What `TryParseFrame` makes of a frame with the header of `p`. -/
theorem tryParseFrame_eq {p : BspPacket} {memory : Memory} {buffer : ℕ} (frame_size : ℕ)
    (h : slice memory buffer headerSize = p.bytes.take headerSize) :
    tryParseFrame memory buffer frame_size =
      if sizeof < frame_size ∧ p.packetSize = frame_size then
        some { p with data_start := buffer + headerSize }
      else none := by
  have hsize : headerSize = 9 := rfl
  have hsizeof : sizeof = 17 := rfl
  unfold tryParseFrame packetSize
  rw [copyHeader_eq h]
  dsimp only
  by_cases hshort : frame_size ≤ sizeof
  · rw [if_pos hshort, if_neg (by omega)]
  · rw [if_neg hshort]
    by_cases hlength : p.data_length.toNat + headerSize = frame_size
    · rw [if_neg (by omega), if_pos ⟨by omega, hlength⟩]
    · rw [if_pos (by omega), if_neg fun hboth => hlength hboth.2]

/-! ## Round trips -/

/-- `PackFrame` is `Pack` and a copy of the payload behind the header. -/
theorem packFrame_eq (p : BspPacket) (payload : List UInt8) (memory : Memory) (buffer : ℕ) :
    p.packFrame payload memory buffer =
      ((p.pack memory buffer payload.length).1,
        overwrite (p.pack memory buffer payload.length).2 (buffer + headerSize) payload,
        payload.length + headerSize) := by
  unfold packFrame pack
  rw [Nat.add_comm payload.length]
  rfl

/-- The header that `Pack` writes stays when the body is copied behind it. -/
theorem slice_pack (p : BspPacket) (memory : Memory) (buffer body_size : ℕ)
    (payload : List UInt8) :
    slice (overwrite (p.pack memory buffer body_size).2 (buffer + headerSize) payload) buffer
      headerSize = (p.pack memory buffer body_size).1.bytes.take headerSize := by
  rw [slice_overwrite_of_disjoint (Or.inl le_rfl)]
  have h := slice_overwrite_self memory buffer
    ((p.pack memory buffer body_size).1.bytes.take headerSize)
  rwa [length_header] at h

/-- What comes out of a frame with a payload that was packed. -/
theorem tryParseFrame_pack (p : BspPacket) (memory : Memory) (buffer : ℕ) (payload : List UInt8) :
    tryParseFrame
        (overwrite (p.pack memory buffer payload.length).2 (buffer + headerSize) payload) buffer
        (payload.length + headerSize) =
      if 9 ≤ payload.length ∧ payload.length < 2 ^ 16 then
        some { p with
          data_length := UInt16.ofNat payload.length
          data_start := buffer + headerSize }
      else none := by
  have hsize : headerSize = 9 := rfl
  have hsizeof : sizeof = 17 := rfl
  rw [tryParseFrame_eq _ (slice_pack p memory buffer payload.length payload)]
  refine if_congr ?_ rfl rfl
  show _ ∧ (UInt16.ofNat payload.length).toNat + headerSize = _ ↔ _
  rw [UInt16.toNat_ofNat']
  constructor
  · rintro ⟨hlong, hlength⟩
    have := Nat.mod_lt payload.length (show 0 < 2 ^ 16 by decide)
    omega
  · rintro ⟨hlong, hlength⟩
    rw [Nat.mod_eq_of_lt hlength]
    omega

/-- `q` has the numbers of `p`, and its data are the payload. -/
structure Delivers (p : BspPacket) (payload : List UInt8) (memory : Memory) (buffer : ℕ)
    (q : BspPacket) : Prop where
  id : q.id = p.id
  sequence_number : q.sequence_number = p.sequence_number
  session_number : q.session_number = p.session_number
  timestamp : q.timestamp = p.timestamp
  data_length : q.data_length.toNat = payload.length
  data_start : q.data_start = buffer + headerSize
  data : slice memory q.data_start q.data_length.toNat = payload

/-- `TryParseFrame` delivers what `PackFrame` has packed. -/
def RoundTrips (p : BspPacket) (payload : List UInt8) (memory : Memory) (buffer : ℕ) : Prop :=
  let (_, memory, frame_size) := p.packFrame payload memory buffer
  ∃ q, tryParseFrame memory buffer frame_size = some q ∧ p.Delivers payload memory buffer q

/-- A frame is rejected when the declared length is not that of the bytes behind the header. -/
def RejectsLength (memory : Memory) (buffer frame_size : ℕ) : Prop :=
  (copyHeader memory buffer).data_length.toNat + headerSize ≠ frame_size →
    tryParseFrame memory buffer frame_size = none

theorem rejectsLength (memory : Memory) (buffer frame_size : ℕ) :
    RejectsLength memory buffer frame_size := by
  intro hlength
  unfold tryParseFrame
  have hsize : headerSize = 9 := rfl
  have hsizeof : sizeof = 17 := rfl
  by_cases hshort : frame_size ≤ sizeof
  · rw [if_pos hshort]
  · rw [if_neg hshort, if_pos (by omega)]

/-- Exactly the payloads of 9 to 65535 bytes come back, with their header, and every frame with
another length than it declares is rejected. -/
theorem roundTrips_iff (p : BspPacket) (payload : List UInt8) (memory : Memory) (buffer : ℕ) :
    (p.RoundTrips payload memory buffer ↔ 9 ≤ payload.length ∧ payload.length < 2 ^ 16) ∧
      ∀ frame_size, RejectsLength memory buffer frame_size := by
  refine ⟨?_, rejectsLength memory buffer⟩
  unfold RoundTrips
  rw [packFrame_eq]
  dsimp only
  rw [tryParseFrame_pack]
  constructor
  · rintro ⟨q, hq, -⟩
    exact (Option.ite_none_right_eq_some.mp hq).1
  · intro hlength
    have hdata : (UInt16.ofNat payload.length).toNat = payload.length := by
      rw [UInt16.toNat_ofNat', Nat.mod_eq_of_lt hlength.2]
    refine ⟨_, if_pos hlength, rfl, rfl, rfl, rfl, hdata, rfl, ?_⟩
    show slice _ (buffer + headerSize) (UInt16.ofNat payload.length).toNat = payload
    rw [hdata, slice_overwrite_self]

/-- A payload of 8 bytes is packed, but not parsed. -/
theorem not_roundTrips_8 :
    ¬ RoundTrips ⟨5, 6, 7, 20, 0, 0⟩ (List.replicate 8 0) (fun _ => 0) 0 := by
  rintro ⟨q, hq, -⟩
  have hnone : tryParseFrame
      (packFrame ⟨5, 6, 7, 20, 0, 0⟩ (List.replicate 8 0) (fun _ => 0) 0).2.1 0 17 = none := rfl
  cases hnone.symm.trans hq

end BspPacket

end AugmentedNormalcy.Prototype
