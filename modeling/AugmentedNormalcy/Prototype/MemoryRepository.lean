import AugmentedNormalcy.Foundation.Json
import AugmentedNormalcy.Foundation.OrdMap
import AugmentedNormalcy.Foundation.Run
import Mathlib.Order.Basic

/-!
# The repository of the prototype

`MemoryRepository` of `src/prototype/internal/infrastructure/repository/memory.hpp` keeps cameras as
JSON, by their ids, with the conversions of `src/prototype/internal/domain/camera/serializer.hpp`.
What was last set under an id comes back as it was, but for a camera 0 that is no base camera; and
only from `GetCameras`. `TryGetCamera` converts the entry of the map, a pair of the key and the
value, and not the value, so it finds nothing (`repository_eq`). -/

namespace AugmentedNormalcy.Prototype.Repository

open StepSystem

/-! ## The camera and its JSON -/

/-- `int`. -/
abbrev CInt := { n : ℤ // -2 ^ 31 ≤ n ∧ n < 2 ^ 31 }

/-- The low 32 bits. -/
def CInt.ofInt (n : ℤ) : CInt :=
  ⟨n.bmod (2 ^ 32), by
    have hlow := Int.le_bmod (x := n) (m := 2 ^ 32) (by decide)
    have hhigh := Int.bmod_lt (x := n) (m := 2 ^ 32) (by decide)
    omega⟩

/-- `libcamera::Size`. -/
structure Size where
  width : UInt32
  height : UInt32
deriving DecidableEq

/-- `domain::Camera`. -/
structure Camera where
  id : CInt
  is_base_camera : Bool
  resolution : Size
  framerate : CInt
  buffer_count : CInt
  bin_output : Bool
deriving DecidableEq

/-- The conversion of an `int`. -/
def ofInt (n : CInt) : Json := .number_integer (Int64.ofInt n)

/-- The conversion of an `unsigned int`. -/
def ofUnsigned (n : UInt32) : Json := .number_unsigned n.toUInt64

/-- `CameraToJson`. -/
def cameraToJson (c : Camera) : Json :=
  .object [("id", ofInt c.id), ("is_base_camera", .boolean c.is_base_camera),
    ("resolution", .object [("width", ofUnsigned c.resolution.width),
      ("height", ofUnsigned c.resolution.height)]),
    ("framerate", ofInt c.framerate), ("buffer_count", ofInt c.buffer_count),
    ("bin_output", .boolean c.bin_output)]

/-- What the language leaves open: the conversions of doubles that are out of range. -/
structure Conversions where
  toInt : Double → ℤ
  toUnsigned : Double → UInt32

/-- `get<int>`. Unlike that of an enumeration, it also takes a boolean. -/
def getInt (convert : Conversions) : Json → Except JsonException CInt
  | .boolean b => .ok (CInt.ofInt b.toInt)
  | j => (j.getInt convert.toInt).map CInt.ofInt

/-- `get<unsigned int>`. -/
def getUnsigned (convert : Conversions) : Json → Except JsonException UInt32
  | .number_unsigned n => .ok n.toUInt32
  | .number_integer n => .ok n.toUInt64.toUInt32
  | .number_float d => .ok (convert.toUnsigned d)
  | .boolean b => .ok (if b then 1 else 0)
  | j => .error (.type_error 302
      ("[json.exception.type_error.302] type must be number, but is " ++ j.typeName))

/-- `get<bool>`. -/
def getBool : Json → Except JsonException Bool
  | .boolean b => .ok b
  | j => .error (.type_error 302
      ("[json.exception.type_error.302] type must be boolean, but is " ++ j.typeName))

/-- The members of a camera. -/
def getCamera (convert : Conversions) (j : Json) : Except JsonException Camera := do
  let id ← getInt convert (← j.atKey "id")
  let is_base_camera ← getBool (← j.atKey "is_base_camera")
  let width ← getUnsigned convert (← (← j.atKey "resolution").atKey "width")
  let height ← getUnsigned convert (← (← j.atKey "resolution").atKey "height")
  let framerate ← getInt convert (← j.atKey "framerate")
  let buffer_count ← getInt convert (← j.atKey "buffer_count")
  let bin_output ← getBool (← j.atKey "bin_output")
  return { id, is_base_camera, resolution := ⟨width, height⟩, framerate, buffer_count, bin_output }

/-- `is_object`. -/
def isObject : Json → Bool
  | .object _ => true
  | _ => false

/-- `JsonToCamera`. -/
def jsonToCamera (convert : Conversions) (j : Json) : Except JsonException (Option Camera) :=
  if isObject j then do
    let id ← getInt convert (← j.atKey "id")
    -- The second member is looked at only when the id is 0.
    if id.1 = 0 then
      let is_base_camera ← getBool (← j.atKey "is_base_camera")
      if is_base_camera then return some (← getCamera convert j) else return none
    else return some (← getCamera convert j)
  else return none

/-! ## The repository -/

/-- `MemoryRepository`. -/
structure MemoryRepository where
  camera_store : OrdMap CInt Json
  base_camera : Json

/-- A repository without cameras. -/
def MemoryRepository.initial : MemoryRepository := ⟨.empty, .null⟩

namespace MemoryRepository

/-- The conversion of an entry of the map: `std::pair` becomes an array. -/
def pairToJson (entry : CInt × Json) : Json := .array [ofInt entry.1, entry.2]

/-- `TryGetCamera`. -/
def tryGetCamera (convert : Conversions) (r : MemoryRepository) (id : CInt) :
    Except JsonException (Option Camera) :=
  match r.camera_store.find? id with
  | none => .ok none
  | some j => jsonToCamera convert (pairToJson (id, j))

/-- `TryGetBaseCamera`. -/
def tryGetBaseCamera (convert : Conversions) (r : MemoryRepository) :
    Except JsonException (Option Camera) :=
  if isObject r.base_camera then jsonToCamera convert r.base_camera else .ok none

/-- `GetCameras`. -/
def getCameras (convert : Conversions) (r : MemoryRepository) :
    Except JsonException (List Camera) := do
  let cameras ← r.camera_store.entries.mapM fun entry => jsonToCamera convert entry.2
  return cameras.filterMap id

/-- `SetCamera`. -/
def setCamera (r : MemoryRepository) (camera : Camera) : MemoryRepository × Bool :=
  ({ r with camera_store := r.camera_store.insert camera.id (cameraToJson camera) }, true)

/-- `SetCameras`. -/
def setCameras (r : MemoryRepository) (cameras : List Camera) : MemoryRepository × Bool :=
  cameras.foldl (fun r camera => r.1.setCamera camera) (r, true)

end MemoryRepository

/-! ## The round trip -/

variable (convert : Conversions)

/-- An `int` is its own value. -/
theorem ofInt_val (n : CInt) : CInt.ofInt n = n := by
  have hn := n.2
  apply Subtype.ext
  unfold CInt.ofInt
  exact Int.bmod_eq_of_le (by omega) (by omega)

/-- An `int` that was written is read back. -/
theorem getInt_ofInt (n : CInt) : getInt convert (ofInt n) = .ok n := by
  have hn := n.2
  unfold getInt ofInt Json.getInt
  dsimp only [Except.map]
  rw [Int64.toInt_ofInt_of_le (by omega) (by omega), Int.bmod_eq_of_le (by omega) (by omega),
    ofInt_val]

/-- So is an `unsigned int`. -/
theorem getUnsigned_ofUnsigned (n : UInt32) : getUnsigned convert (ofUnsigned n) = .ok n := by
  unfold getUnsigned ofUnsigned
  dsimp only
  rw [UInt32.toUInt32_toUInt64]

/-- The members of a camera come back. -/
theorem getCamera_cameraToJson (c : Camera) : getCamera convert (cameraToJson c) = .ok c := by
  have hid : (cameraToJson c).atKey "id" = .ok (ofInt c.id) := rfl
  have hbase : (cameraToJson c).atKey "is_base_camera" = .ok (.boolean c.is_base_camera) := rfl
  have hresolution : (cameraToJson c).atKey "resolution" =
      .ok (.object [("width", ofUnsigned c.resolution.width),
        ("height", ofUnsigned c.resolution.height)]) := rfl
  have hwidth : (Json.object [("width", ofUnsigned c.resolution.width),
      ("height", ofUnsigned c.resolution.height)]).atKey "width" =
        .ok (ofUnsigned c.resolution.width) := rfl
  have hheight : (Json.object [("width", ofUnsigned c.resolution.width),
      ("height", ofUnsigned c.resolution.height)]).atKey "height" =
        .ok (ofUnsigned c.resolution.height) := rfl
  have hframerate : (cameraToJson c).atKey "framerate" = .ok (ofInt c.framerate) := rfl
  have hcount : (cameraToJson c).atKey "buffer_count" = .ok (ofInt c.buffer_count) := rfl
  have hbin : (cameraToJson c).atKey "bin_output" = .ok (.boolean c.bin_output) := rfl
  unfold getCamera
  simp only [hid, hbase, hresolution, hwidth, hheight, hframerate, hcount, hbin, getInt_ofInt,
    getUnsigned_ofUnsigned, getBool, pure, Except.pure, bind, Except.bind]

/-- `GetCameras` passes over it. -/
def isHidden (c : Camera) : Bool := c.id.1 = 0 && !c.is_base_camera

/-- A camera that was written is read back, unless it is hidden. -/
theorem jsonToCamera_cameraToJson (c : Camera) :
    jsonToCamera convert (cameraToJson c) = .ok (if isHidden c then none else some c) := by
  have hobject : isObject (cameraToJson c) = true := rfl
  have hid : (cameraToJson c).atKey "id" = .ok (ofInt c.id) := rfl
  have hbase : (cameraToJson c).atKey "is_base_camera" = .ok (.boolean c.is_base_camera) := rfl
  have hcamera := getCamera_cameraToJson convert c
  unfold jsonToCamera isHidden
  rw [if_pos hobject, hid]
  simp only [bind, Except.bind, pure, Except.pure, getInt_ofInt, hbase, getBool, hcamera]
  by_cases hzero : c.id.1 = 0
  · cases hbaseCamera : c.is_base_camera with
    | true => simp [hzero]
    | false => simp [hzero]
  · simp [hzero]

/-! ## What was set -/

open MemoryRepository

/-- A call that sets cameras. -/
inductive Call where
  | setCamera (camera : Camera)
  | setCameras (cameras : List Camera)

/-- The cameras that it sets. -/
def Call.cameras : Call → List Camera
  | .setCamera camera => [camera]
  | .setCameras cameras => cameras

/-- The repository after the call. -/
def apply (r : MemoryRepository) : Call → MemoryRepository
  | .setCamera camera => (r.setCamera camera).1
  | .setCameras cameras => (r.setCameras cameras).1

/-- The repository holds these cameras. -/
structure Holds (r : MemoryRepository) (set : List Camera) (cameras : OrdMap CInt Camera) :
    Prop where
  store : r.camera_store = cameras.mapVal fun _ camera => cameraToJson camera
  base : r.base_camera = .null
  /-- Under each id is the last camera that was set under it. -/
  last : ∀ id, cameras.find? id = (set.filter fun camera => camera.id = id).getLast?

/-- At first it holds none. -/
theorem Holds.initial : Holds .initial [] .empty where
  store := rfl
  base := rfl
  last _ := rfl

/-- Setting a camera adds or replaces it. -/
theorem Holds.setCamera {r : MemoryRepository} {set : List Camera} {cameras : OrdMap CInt Camera}
    (h : Holds r set cameras) (camera : Camera) :
    Holds (r.setCamera camera).1 (set ++ [camera]) (cameras.insert camera.id camera) := by
  refine ⟨?_, h.base, fun id => ?_⟩
  · apply OrdMap.ext_find?
    intro id
    unfold MemoryRepository.setCamera
    dsimp only
    rw [OrdMap.find?_insert, OrdMap.find?_mapVal, OrdMap.find?_insert, h.store, OrdMap.find?_mapVal]
    split_ifs <;> rfl
  · rw [OrdMap.find?_insert, List.filter_append, h.last]
    split_ifs with hid
    · rw [hid, List.filter_cons_of_pos (by simp), List.filter_nil, List.getLast?_concat]
    · rw [List.filter_cons_of_neg (by simpa using Ne.symm hid), List.filter_nil, List.append_nil]

/-- Setting several does so one after the other. -/
theorem Holds.setAll {r : MemoryRepository} {set : List Camera} {cameras : OrdMap CInt Camera}
    (h : Holds r set cameras) (l : List Camera) :
    ∃ cameras, Holds (l.foldl (fun r camera => (r.setCamera camera).1) r) (set ++ l) cameras := by
  induction l generalizing r set cameras with
  | nil => exact ⟨cameras, by rwa [List.append_nil]⟩
  | cons camera l ih =>
    obtain ⟨cameras', h'⟩ := ih (h.setCamera camera)
    rw [List.append_assoc] at h'
    exact ⟨cameras', h'⟩

/-- `SetCameras` sets them all, whatever it returns. -/
theorem setCameras_fst (r : MemoryRepository) (l : List Camera) (ok : Bool) :
    (l.foldl (fun (r : MemoryRepository × Bool) camera => r.1.setCamera camera) (r, ok)).1 =
      l.foldl (fun r camera => (r.setCamera camera).1) r := by
  induction l generalizing r ok with
  | nil => rfl
  | cons camera l ih => exact ih _ _

/-- After any calls, the repository holds for each id the last camera that was set under it. -/
theorem exists_holds (calls : List Call) :
    ∃ cameras, Holds (calls.foldl apply .initial) (calls.flatMap Call.cameras) cameras := by
  have hcalls : ∀ (calls : List Call) {r : MemoryRepository} {set : List Camera}
      {cameras : OrdMap CInt Camera}, Holds r set cameras →
      ∃ cameras, Holds (calls.foldl apply r) (set ++ calls.flatMap Call.cameras) cameras := by
    intro calls
    induction calls with
    | nil =>
      intro r set cameras h
      exact ⟨cameras, by rwa [List.flatMap_nil, List.append_nil]⟩
    | cons call calls ih =>
      intro r set cameras h
      have hcall : ∃ cameras, Holds (apply r call) (set ++ call.cameras) cameras := by
        cases call with
        | setCamera camera => exact ⟨_, h.setCamera camera⟩
        | setCameras l =>
          have hall := h.setAll l
          rw [← setCameras_fst r l true] at hall
          exact hall
      obtain ⟨cameras', h'⟩ := hcall
      obtain ⟨cameras'', h''⟩ := ih h'
      rw [List.append_assoc] at h''
      exact ⟨cameras'', by rwa [List.flatMap_cons]⟩
  exact hcalls calls .initial

/-- The loop of `GetCameras`, over what was made of cameras. -/
theorem mapM_jsonToCamera (l : List (CInt × Camera)) :
    (l.map fun entry => (entry.1, cameraToJson entry.2)).mapM
        (fun entry => jsonToCamera convert entry.2) =
      .ok (l.map fun entry => if isHidden entry.2 then none else some entry.2) := by
  induction l with
  | nil => rfl
  | cons entry l ih =>
    rw [List.map_cons, List.mapM_cons, ih, jsonToCamera_cameraToJson]
    rfl

/-- Leaving out the hidden ones is a filter. -/
theorem filterMap_visible (l : List (CInt × Camera)) :
    (l.map fun entry => if isHidden entry.2 then none else some entry.2).filterMap id =
      (l.map Prod.snd).filter fun camera => !isHidden camera := by
  induction l with
  | nil => rfl
  | cons entry l ih =>
    rw [List.map_cons, List.map_cons]
    cases hhidden : isHidden entry.2 with
    | true =>
      rw [List.filter_cons_of_neg (by simp [hhidden])]
      exact ih
    | false =>
      rw [List.filter_cons_of_pos (by simp [hhidden])]
      exact congrArg (entry.2 :: ·) ih

/-- After any calls of `SetCamera` and `SetCameras`: `GetCameras` returns, in the order of the ids,
the last camera that was set under each, as it was set, but for one with the id 0 that is no base
camera. `TryGetCamera` finds no camera under any id, and `TryGetBaseCamera` none either. -/
theorem repository_eq (calls : List Call) : ∃ cameras : OrdMap CInt Camera,
    (∀ id, cameras.find? id =
      ((calls.flatMap Call.cameras).filter fun camera => camera.id = id).getLast?) ∧
    getCameras convert (calls.foldl apply .initial) =
      .ok ((cameras.entries.map Prod.snd).filter fun camera => !isHidden camera) ∧
    (∀ id, tryGetCamera convert (calls.foldl apply .initial) id = .ok none) ∧
    tryGetBaseCamera convert (calls.foldl apply .initial) = .ok none := by
  obtain ⟨cameras, hstore, hbase, hlast⟩ := exists_holds calls
  refine ⟨cameras, hlast, ?_, fun id => ?_, ?_⟩
  · unfold getCameras OrdMap.mapVal at *
    rw [hstore, mapM_jsonToCamera]
    exact congrArg Except.ok (filterMap_visible _)
  · unfold tryGetCamera
    cases (calls.foldl apply .initial).camera_store.find? id with
    | none => rfl
    | some j => rfl
  · unfold tryGetBaseCamera
    rw [hbase]
    rfl

end AugmentedNormalcy.Prototype.Repository
