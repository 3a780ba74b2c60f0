import AugmentedNormalcy.Foundation.Json
import AugmentedNormalcy.Headset.HeadsetStreamer

/-!
# Domain messages

`DomainMessage` of `src/internal/domain/message.hpp` with its two kinds, and `TryParseMessage`. A
message is an object with a payload, which nothing reads, and a type, which `get` converts to an
`int`. So a number that is no type may be read as one (`Misread`), and `TryParseMessage` follows the
grammar of messages exactly when the type is not such a number (`parses_iff`).

The grammar wants an integer for the type. Whether the double `1.0` is one is left open: it is for
`Json.IsInteger`, and it is not for `Json.IsNumberInteger`.
-/

namespace AugmentedNormalcy.Domain

open Headset (MessageType)

/-- The value of the enumerator. -/
def toInt : MessageType → ℤ
  | .HeadsetRotateCamera => 0
  | .HeadsetResetCamera => 1

/-- The classes that derive from `DomainMessage`. -/
inductive DomainMessage where
  | HeadsetRotateCameraMessage
  | HeadsetResetCameraMessage
deriving DecidableEq, Repr

/-- `DomainMessagePtr`. -/
abbrev DomainMessagePtr := Option DomainMessage

namespace DomainMessage

def getMessageType : DomainMessage → MessageType
  | HeadsetRotateCameraMessage => .HeadsetRotateCamera
  | HeadsetResetCameraMessage => .HeadsetResetCamera

def getMessagePayload : DomainMessage → Json
  | HeadsetRotateCameraMessage => .number_integer 1
  | HeadsetResetCameraMessage => .number_integer 1

def getMessage (m : DomainMessage) : Json :=
  .object [("message_type", .number_integer (Int64.ofInt (toInt m.getMessageType))),
    ("message_payload", m.getMessagePayload)]

/-- `HeadsetRotateCameraMessage::TryCreate`. -/
def tryCreateRotateCamera (_json_data : Json) : DomainMessagePtr := some HeadsetRotateCameraMessage

/-- `HeadsetResetCameraMessage::TryCreate`. -/
def tryCreateResetCamera (_json_data : Json) : DomainMessagePtr := some HeadsetResetCameraMessage

/-- The `try` block of `TryParseMessage`. -/
def parseBlock (convert : Double → ℤ) (json_data : Json) :
    Except JsonException DomainMessagePtr := do
  let message_type ← (← json_data.atKey "message_type").getInt convert
  if message_type = toInt .HeadsetRotateCamera then
    return tryCreateRotateCamera (← json_data.atKey "message_payload")
  else if message_type = toInt .HeadsetResetCamera then
    return tryCreateResetCamera (← json_data.atKey "message_payload")
  else return none

/-- `TryParseMessage`. -/
def tryParseMessage (convert : Double → ℤ) (json_data : Json) :
    Except JsonException DomainMessagePtr :=
  tryCatch (parseBlock convert json_data) fun _ => return none

end DomainMessage

open DomainMessage

/-! ## The grammar of messages -/

/-- The value is an object with a payload, and with a type such that `p`. -/
def HasType (p : Json → Prop) (j : Json) : Prop :=
  ∃ message_type payload, j.HasMember "message_type" message_type ∧
    j.HasMember "message_payload" payload ∧ p message_type

/-- The value is a message of type `t`, where `IsValue` says which values an integer has. -/
def IsMessage (IsValue : ℤ → Json → Prop) (t : MessageType) (j : Json) : Prop :=
  HasType (IsValue (toInt t)) j

/-- `TryParseMessage` does not throw, and returns the messages, of their type. -/
def Parses (IsValue : ℤ → Json → Prop) (convert : Double → ℤ) (j : Json) : Prop :=
  ∃ message, tryParseMessage convert j = .ok message ∧
    ∀ t, message.map getMessageType = some t ↔ IsMessage IsValue t j

/-- A number that is neither 0 nor 1, and is converted to one of them. -/
def Misread (convert : Double → ℤ) : Json → Prop
  | .number_integer n => n.toInt ∉ [0, 1] ∧ n.toInt % 2 ^ 32 ∈ [0, 1]
  | .number_unsigned n => (n.toNat : ℤ) ∉ [0, 1] ∧ (n.toNat : ℤ) % 2 ^ 32 ∈ [0, 1]
  | .number_float d =>
    (∃ q, d.value? = some q ∧ (-1 < q ∧ q < 2) ∧ q ∉ [0, 1]) ∨
      ¬ d.IsRepresentable ∧ convert d ∈ [0, 1]
  | _ => False

/-- The double 0 or 1. -/
def IsWholeDouble : Json → Prop
  | .number_float d => ∃ q, d.value? = some q ∧ q ∈ [0, 1]
  | _ => False

/-! ## What is parsed -/

variable {convert : Double → ℤ} {j : Json}

theorem toInt_bounds (t : MessageType) : 0 ≤ toInt t ∧ toInt t < 2 ^ 31 := by
  cases t <;> decide

theorem eq_toInt_iff {n : ℤ} : n ∈ [0, 1] ↔ ∃ t, n = toInt t := by
  constructor
  · intro h
    rcases List.mem_pair.mp h with rfl | rfl
    · exact ⟨.HeadsetRotateCamera, rfl⟩
    · exact ⟨.HeadsetResetCamera, rfl⟩
  · rintro ⟨t, rfl⟩
    cases t <;> decide

/-- The type is read first, and then the payload. -/
theorem parseBlock_eq_ok_some_iff {m : DomainMessage} :
    parseBlock convert j = .ok (some m) ↔
      HasType (fun message_type =>
        message_type.getInt convert = .ok (toInt m.getMessageType)) j := by
  unfold parseBlock HasType
  constructor
  · intro h
    obtain ⟨message_type, htype, h⟩ := bind_eq_ok_iff.mp h
    obtain ⟨n, hn, h⟩ := bind_eq_ok_iff.mp h
    rw [Json.atKey_eq_ok_iff] at htype
    split_ifs at h with hrotate hreset
    · obtain ⟨payload, hpayload, ⟨⟩⟩ := bind_eq_ok_iff.mp h
      exact ⟨message_type, payload, htype, Json.atKey_eq_ok_iff.mp hpayload, hrotate ▸ hn⟩
    · obtain ⟨payload, hpayload, ⟨⟩⟩ := bind_eq_ok_iff.mp h
      exact ⟨message_type, payload, htype, Json.atKey_eq_ok_iff.mp hpayload, hreset ▸ hn⟩
    · cases h
  · rintro ⟨message_type, payload, htype, hpayload, hn⟩
    refine bind_eq_ok_iff.mpr ⟨message_type, Json.atKey_eq_ok_iff.mpr htype, ?_⟩
    refine bind_eq_ok_iff.mpr ⟨_, hn, ?_⟩
    cases m with
    | HeadsetRotateCameraMessage =>
      rw [getMessageType, if_pos rfl]
      exact bind_eq_ok_iff.mpr ⟨payload, Json.atKey_eq_ok_iff.mpr hpayload, rfl⟩
    | HeadsetResetCameraMessage =>
      rw [getMessageType, if_neg (by decide), if_pos rfl]
      exact bind_eq_ok_iff.mpr ⟨payload, Json.atKey_eq_ok_iff.mpr hpayload, rfl⟩

/-- Nothing is thrown past the `catch` block. -/
theorem exists_tryParseMessage_eq (convert : Double → ℤ) (j : Json) :
    ∃ message, tryParseMessage convert j = .ok message ∧
      ∀ m, message = some m ↔ parseBlock convert j = .ok (some m) := by
  unfold tryParseMessage
  cases h : parseBlock convert j with
  | error e => exact ⟨none, rfl, fun m => ⟨nofun, nofun⟩⟩
  | ok message => exact ⟨message, rfl, fun m => by rw [Except.ok.injEq]⟩

/-- What `TryParseMessage` returns has the type that is read. -/
theorem exists_tryParseMessage (convert : Double → ℤ) (j : Json) :
    ∃ message, tryParseMessage convert j = .ok message ∧
      ∀ t, message.map getMessageType = some t ↔
        HasType (fun message_type => message_type.getInt convert = .ok (toInt t)) j := by
  obtain ⟨message, hparse, hmessage⟩ := exists_tryParseMessage_eq convert j
  refine ⟨message, hparse, fun t => ?_⟩
  rw [Option.map_eq_some_iff]
  constructor
  · rintro ⟨m, hm, rfl⟩
    exact parseBlock_eq_ok_some_iff.mp ((hmessage m).mp hm)
  · intro h
    obtain ⟨m, rfl⟩ : ∃ m : DomainMessage, m.getMessageType = t := by
      cases t with
      | HeadsetRotateCamera => exact ⟨HeadsetRotateCameraMessage, rfl⟩
      | HeadsetResetCamera => exact ⟨HeadsetResetCameraMessage, rfl⟩
    exact ⟨m, (hmessage m).mpr (parseBlock_eq_ok_some_iff.mpr h), rfl⟩

/-! ## Numbers that are misread -/

theorem exists_messageType {p : MessageType → Prop} :
    (∃ t, p t) ↔ p .HeadsetRotateCamera ∨ p .HeadsetResetCamera := by
  constructor
  · rintro ⟨t, ht⟩
    cases t with
    | HeadsetRotateCamera => exact .inl ht
    | HeadsetResetCamera => exact .inr ht
  · rintro (h | h)
    · exact ⟨_, h⟩
    · exact ⟨_, h⟩

/-- An integer is misread when it leaves the bits of a type, and more. -/
theorem misread_int_iff (n : ℤ) :
    n ∉ [0, 1] ∧ n % 2 ^ 32 ∈ [0, 1] ↔ ∃ t, n % 2 ^ 32 = toInt t ∧ n ≠ toInt t := by
  rw [exists_messageType, List.mem_pair, List.mem_pair]
  simp only [toInt]
  omega

/-- A fraction is misread when its integer part is a type. -/
theorem misread_fraction_iff (q : ℚ) :
    (-1 < q ∧ q < 2) ∧ q ∉ [0, 1] ↔
      ∃ t, Double.truncate q = toInt t ∧ q ≠ ((toInt t : ℤ) : ℚ) := by
  rw [exists_messageType, List.mem_pair, not_or]
  simp only [toInt]
  rw [Double.truncate_eq_zero_iff, Double.truncate_eq_iff_of_pos one_pos]
  push_cast
  constructor
  · rintro ⟨⟨hlow, hhigh⟩, hzero, hone⟩
    -- The integer part is that of the type below.
    rcases lt_or_ge q 1 with hlt | hge
    · exact .inl ⟨⟨hlow, hlt⟩, hzero⟩
    · exact .inr ⟨⟨hge, by linarith⟩, hone⟩
  · rintro (⟨⟨hlow, hhigh⟩, hzero⟩ | ⟨⟨hlow, hhigh⟩, hone⟩)
    · exact ⟨⟨hlow, by linarith⟩, hzero, hhigh.ne⟩
    · exact ⟨⟨by linarith, by linarith⟩, by linarith, hone⟩

/-- A double is misread when it has a fraction, or when it cannot be converted. -/
theorem misread_float_iff (d : Double) :
    Misread convert (.number_float d) ↔
      ∃ t, (Json.number_float d).getInt convert = .ok (toInt t) ∧
        d.value? ≠ some ((toInt t : ℤ) : ℚ) := by
  simp only [Json.getInt_number_float_eq_iff]
  constructor
  · rintro (⟨q, hq, hrange, hne⟩ | ⟨hrep, hconvert⟩)
    · obtain ⟨t, ht, hqt⟩ := (misread_fraction_iff q).mp ⟨hrange, hne⟩
      refine ⟨t, .inl ⟨q, hq, ⟨by linarith [hrange.1], by linarith [hrange.2]⟩, ht⟩, ?_⟩
      exact fun hvalue => hqt (Option.some.inj (hq.symm.trans hvalue))
    · obtain ⟨t, ht⟩ := eq_toInt_iff.mp hconvert
      refine ⟨t, .inr ⟨hrep, ht⟩, fun hvalue => hrep ⟨_, hvalue, ?_⟩⟩
      obtain ⟨hlow, hhigh⟩ := toInt_bounds t
      have hlow' : (0 : ℚ) ≤ (toInt t : ℤ) := Int.cast_nonneg hlow
      have hhigh' : ((toInt t : ℤ) : ℚ) < 2 ^ 31 := by exact_mod_cast hhigh
      exact ⟨by linarith, hhigh'⟩
  · rintro ⟨t, ⟨q, hq, -, ht⟩ | ⟨hrep, hconvert⟩, hvalue⟩
    · have hqt : q ≠ (toInt t : ℤ) := fun e => hvalue (e ▸ hq)
      obtain ⟨hrange, hne⟩ := (misread_fraction_iff q).mpr ⟨t, ht, hqt⟩
      exact .inl ⟨q, hq, hrange, hne⟩
    · exact .inr ⟨hrep, eq_toInt_iff.mpr ⟨t, hconvert⟩⟩

/-- A type is misread when the conversion makes it the integer of a type that it is not. -/
theorem misread_iff {message_type : Json} :
    Misread convert message_type ↔
      ∃ t, message_type.getInt convert = .ok (toInt t) ∧ ¬ message_type.IsInteger (toInt t) := by
  cases message_type with
  | number_integer n =>
    refine (misread_int_iff n.toInt).trans (exists_congr fun t => and_congr_left fun _ => ?_)
    exact (Json.getInt_number_integer_eq_iff (toInt_bounds t).1 (toInt_bounds t).2).symm
  | number_unsigned n =>
    refine (misread_int_iff n.toNat).trans (exists_congr fun t => and_congr_left fun _ => ?_)
    exact (Json.getInt_number_unsigned_eq_iff (toInt_bounds t).1 (toInt_bounds t).2).symm
  | number_float d => exact misread_float_iff d
  | _ => exact ⟨fun h => h.elim, fun ⟨_, h, _⟩ => by cases h⟩

/-- Where a double is no integer, it is also misread when it is 0 or 1. -/
theorem misread_or_isWholeDouble_iff {message_type : Json} :
    Misread convert message_type ∨ IsWholeDouble message_type ↔
      ∃ t, message_type.getInt convert = .ok (toInt t) ∧
        ¬ message_type.IsNumberInteger (toInt t) := by
  constructor
  · rintro (h | h)
    · obtain ⟨t, hget, hnot⟩ := misread_iff.mp h
      exact ⟨t, hget, fun hnumber => hnot (Json.isInteger_iff.mpr (.inl hnumber))⟩
    · cases message_type with
      | number_float d =>
        obtain ⟨q, hq, hmem⟩ := h
        obtain ⟨t, rfl⟩ : ∃ t, q = (toInt t : ℤ) := by
          rcases List.mem_pair.mp hmem with rfl | rfl
          · exact ⟨.HeadsetRotateCamera, Int.cast_zero.symm⟩
          · exact ⟨.HeadsetResetCamera, Int.cast_one.symm⟩
        obtain ⟨hlow, hhigh⟩ := toInt_bounds t
        exact ⟨t, Json.getInt_of_isInteger hq hlow hhigh, id⟩
      | _ => exact h.elim
  · rintro ⟨t, hget, hnot⟩
    by_cases hinteger : message_type.IsInteger (toInt t)
    · obtain hnumber | ⟨d, rfl, hd⟩ := Json.isInteger_iff.mp hinteger
      · exact absurd hnumber hnot
      · refine .inr ⟨_, hd, ?_⟩
        cases t <;> simp [toInt]
    · exact .inl (misread_iff.mpr ⟨t, hget, hinteger⟩)

variable {IsValue : ℤ → Json → Prop}

/-- When the conversion gets the integers right, the value is parsed as the grammar says unless the
conversion makes its type the integer of a type that it is not. -/
theorem parses_iff_not_hasType
    (hvalue : ∀ t message_type, IsValue (toInt t) message_type →
      message_type.getInt convert = .ok (toInt t)) :
    Parses IsValue convert j ↔
      ¬ HasType (fun message_type => ∃ t, message_type.getInt convert = .ok (toInt t) ∧
        ¬ IsValue (toInt t) message_type) j := by
  obtain ⟨message, hparse, hmessage⟩ := exists_tryParseMessage convert j
  constructor
  · rintro ⟨message', hparse', hgrammar⟩ ⟨message_type, payload, htype, hpayload, t, hget, hnot⟩
    obtain rfl := Except.ok.inj (hparse.symm.trans hparse')
    -- What is returned has the type `t`, and the value has another one.
    have hreturned := (hmessage t).mpr ⟨message_type, payload, htype, hpayload, hget⟩
    obtain ⟨message_type', -, htype', -, hinteger⟩ := (hgrammar t).mp hreturned
    exact hnot (htype'.unique htype ▸ hinteger)
  · intro hread
    refine ⟨message, hparse, fun t => (hmessage t).trans ?_⟩
    refine exists_congr fun message_type => exists_congr fun payload => ?_
    refine and_congr_right fun htype => and_congr_right fun hpayload => ⟨fun hget => ?_, hvalue _ _⟩
    by_contra hnot
    exact hread ⟨message_type, payload, htype, hpayload, t, hget, hnot⟩

theorem hasType_or {p q : Json → Prop} :
    HasType (fun message_type => p message_type ∨ q message_type) j ↔
      HasType p j ∨ HasType q j := by
  constructor
  · rintro ⟨message_type, payload, htype, hpayload, h | h⟩
    · exact .inl ⟨message_type, payload, htype, hpayload, h⟩
    · exact .inr ⟨message_type, payload, htype, hpayload, h⟩
  · rintro (h | h)
    · obtain ⟨message_type, payload, htype, hpayload, h⟩ := h
      exact ⟨message_type, payload, htype, hpayload, .inl h⟩
    · obtain ⟨message_type, payload, htype, hpayload, h⟩ := h
      exact ⟨message_type, payload, htype, hpayload, .inr h⟩

theorem parses_isInteger_iff :
    Parses Json.IsInteger convert j ↔ ¬ HasType (Misread convert) j := by
  have hvalue (t : MessageType) (message_type : Json) (h : message_type.IsInteger (toInt t)) :
      message_type.getInt convert = .ok (toInt t) :=
    Json.getInt_of_isInteger h (toInt_bounds t).1 (toInt_bounds t).2
  rw [parses_iff_not_hasType hvalue]
  simp only [← misread_iff]

theorem parses_isNumberInteger_iff :
    Parses Json.IsNumberInteger convert j ↔
      ¬ HasType (Misread convert) j ∧ ¬ HasType IsWholeDouble j := by
  have hvalue (t : MessageType) (message_type : Json) (h : message_type.IsNumberInteger (toInt t)) :
      message_type.getInt convert = .ok (toInt t) :=
    Json.getInt_of_isInteger (Json.isInteger_iff.mpr (.inl h)) (toInt_bounds t).1 (toInt_bounds t).2
  rw [parses_iff_not_hasType hvalue, ← not_or, ← hasType_or]
  simp only [← misread_or_isWholeDouble_iff]

theorem tryParseMessage_getMessage (convert : Double → ℤ) (m : DomainMessage) :
    tryParseMessage convert m.getMessage = .ok (some m) := by
  cases m <;> rfl

/-- `TryParseMessage` follows the grammar of messages exactly for the values whose type is not
misread, and every message is parsed as itself. -/
theorem parses_iff (convert : Double → ℤ) :
    (∀ j, Parses Json.IsInteger convert j ↔ ¬ HasType (Misread convert) j) ∧
      (∀ j, Parses Json.IsNumberInteger convert j ↔
        ¬ HasType (Misread convert) j ∧ ¬ HasType IsWholeDouble j) ∧
      ∀ m : DomainMessage, tryParseMessage convert m.getMessage = .ok (some m) :=
  ⟨fun _ => parses_isInteger_iff, fun _ => parses_isNumberInteger_iff,
    tryParseMessage_getMessage convert⟩

/-- `2 ^ 32` is read as 0, and rotates the camera. -/
theorem not_parses_two_pow_32 :
    ¬ Parses Json.IsInteger (fun _ => -2 ^ 31) (.object [("message_type",
        .number_unsigned 4294967296), ("message_payload", .number_integer 1)]) ∧
      ¬ Parses Json.IsNumberInteger (fun _ => -2 ^ 31) (.object [("message_type",
        .number_unsigned 4294967296), ("message_payload", .number_integer 1)]) := by
  rw [parses_isInteger_iff, parses_isNumberInteger_iff]
  have hmisread : HasType (Misread fun _ => -2 ^ 31) (.object [("message_type",
      .number_unsigned 4294967296), ("message_payload", .number_integer 1)]) :=
    ⟨.number_unsigned 4294967296, .number_integer 1, ⟨_, rfl, rfl⟩, ⟨_, rfl, rfl⟩, by
      unfold Misread
      decide⟩
  exact ⟨not_not.mpr hmisread, fun h => h.1 hmisread⟩

end AugmentedNormalcy.Domain
