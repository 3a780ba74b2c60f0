import AugmentedNormalcy.Domain.Message
import AugmentedNormalcy.Server.Rotation

/-!
# Commands of the headsets

`ServerStreamer::PostWebsocketMessage`: a session hands over the JSON value that it has read, and a
message in it moves the writer with the session's address to another camera. A value that is no
message, and a message of a camera, are refused.

So the camera that a headset sees depends on its own commands alone, in the order in which they come
(`attachedAt_postAll`), and after a reset on the number of rotations only
(`attachedAt_postAll_of_reset`).
-/

namespace AugmentedNormalcy.Server

open ConnectionManager Domain Domain.DomainMessage Headset

/-- What a session hands over to `PostWebsocketMessage`. -/
structure Post where
  connection_type : ConnectionType
  addr : TcpAddr
  message : Json

/-- `PostWebsocketMessage`: the manager after it, and what it returns. -/
def postWebsocketMessage (convert : Double → ℤ) (m : ConnectionManager) (post : Post) :
    Except JsonException (ConnectionManager × Bool) := do
  match ← tryParseMessage convert post.message with
  | none => return (m, false)
  | some domain_message =>
    match domain_message.getMessageType with
    | .HeadsetRotateCamera =>
      if post.connection_type = .CAMERA_CONNECTION then return (m, false)
      else return ((m.rotateWriterConnection post.addr).1, true)
    | .HeadsetResetCamera =>
      if post.connection_type = .CAMERA_CONNECTION then return (m, false)
      else return ((m.resetWriterConnection post.addr).1, true)

/-- The manager after these calls. -/
def postAll (convert : Double → ℤ) (m : ConnectionManager) (posts : List Post) :
    Except JsonException ConnectionManager :=
  posts.foldlM (fun m post => Prod.fst <$> postWebsocketMessage convert m post) m

/-! ## The command in a value -/

/-- The command that the session's value holds, if it is not refused. -/
def Post.command? (convert : Double → ℤ) (post : Post) : Option MessageType :=
  if post.connection_type = .CAMERA_CONNECTION then none
  else (tryParseMessage convert post.message).toOption.join.map getMessageType

/-- The manager after a command of `addr`. -/
def obey (m : ConnectionManager) (addr : TcpAddr) : MessageType → ConnectionManager
  | .HeadsetRotateCamera => (m.rotateWriterConnection addr).1
  | .HeadsetResetCamera => (m.resetWriterConnection addr).1

variable {convert : Double → ℤ} {m : ConnectionManager}

/-- A call never throws. It returns true when there is a command, which it obeys, and leaves the
manager as it is when there is none. -/
theorem postWebsocketMessage_eq (post : Post) :
    postWebsocketMessage convert m post =
      .ok (match post.command? convert with
        | none => (m, false)
        | some t => (obey m post.addr t, true)) := by
  obtain ⟨message, hparse, -⟩ := exists_tryParseMessage convert post.message
  unfold postWebsocketMessage Post.command?
  rw [hparse]
  cases message with
  | none => split_ifs <;> rfl
  | some domain_message =>
    by_cases hcamera : post.connection_type = .CAMERA_CONNECTION
    · simp only [if_pos hcamera]
      cases domain_message <;> rfl
    · simp only [if_neg hcamera]
      cases domain_message <;> rfl

/-- Where the parser follows the grammar, the commands are the messages of the clients that are not
cameras. -/
theorem command?_eq_some_iff {IsValue : ℤ → Json → Prop} {post : Post}
    (hparses : Parses IsValue convert post.message) {t : MessageType} :
    post.command? convert = some t ↔
      post.connection_type ≠ .CAMERA_CONNECTION ∧ IsMessage IsValue t post.message := by
  obtain ⟨message, hparse, hgrammar⟩ := hparses
  unfold Post.command?
  rw [hparse, ← hgrammar t]
  split_ifs with hcamera
  · simp [hcamera]
  · simp [hcamera, Except.toOption]

/-- The writer `w` is attached to the `i`-th reader. -/
def AttachedAt (m : ConnectionManager) (w : TcpAddr) (i : ℕ) : Prop :=
  ∃ c, m.writer_connections.find? w = some c ∧ m.reader_sessions.keys[i]? = some c

/-- Where a command takes the sender that is attached to the `i`-th of `n` readers. -/
def nextPosition (n i : ℕ) : MessageType → ℕ
  | .HeadsetRotateCamera => (i + 1) % n
  | .HeadsetResetCamera => 0

/-- A command of an attached writer moves it, and changes nothing else. -/
theorem Attachment.reattached_obey {w : TcpAddr} {i : ℕ} (h : Attachment m)
    (hat : AttachedAt m w i) (t : MessageType) :
    ∃ q, m.reader_sessions.keys[nextPosition m.reader_sessions.size i t]? = some q ∧
      Reattached w q m (obey m w t) := by
  obtain ⟨c, hw, hi⟩ := hat
  have hlt := OrdMap.lt_size_of_getElem?_keys hi
  cases t with
  | HeadsetRotateCamera => exact (h.reattached_rotations hw hi 1).2
  | HeadsetResetCamera =>
    -- A reset is the rotations that end on the first reader.
    obtain ⟨-, q, hq, hre⟩ := h.reattached_rotations hw hi
      ((m.reader_sessions.size - i) % m.reader_sessions.size)
    rw [Nat.add_mod_mod, Nat.add_sub_cancel' hlt.le, Nat.mod_self] at hq
    refine ⟨q, hq, ?_⟩
    unfold obey
    rwa [h.resetWriterConnection_eq_rotations hw hi]

/-- A command of an address that is not attached does nothing. -/
theorem obey_of_not_attached {w : TcpAddr} (hw : m.writer_connections.find? w = none)
    (t : MessageType) : obey m w t = m := by
  cases t <;> simp [obey, rotateWriterConnection, resetWriterConnection, hw]

/-- What a command keeps. -/
theorem Attachment.obey (h : Attachment m) (addr : TcpAddr) (t : MessageType) :
    Attachment (Server.obey m addr t) ∧
      (Server.obey m addr t).reader_sessions = m.reader_sessions := by
  cases t with
  | HeadsetRotateCamera =>
    have hmoved := h.linked.moved_rotateWriterConnection addr
    exact ⟨h.moved hmoved, hmoved.readers⟩
  | HeadsetResetCamera =>
    have hmoved := h.linked.moved_resetWriterConnection addr
    exact ⟨h.moved hmoved, hmoved.readers⟩

theorem Attachment.exists_attachedAt (h : Attachment m) {w c : TcpAddr}
    (hw : m.writer_connections.find? w = some c) : ∃ i, AttachedAt m w i := by
  obtain ⟨s, l, -, hl, -⟩ := h.current hw
  obtain ⟨i, -, hi⟩ := OrdMap.exists_getElem?_keys ((h.reader_keys c).mp (by simp [hl]))
  exact ⟨i, c, hw, hi⟩

/-- A writer is moved by its own commands only. -/
theorem AttachedAt.obey {w : TcpAddr} {i : ℕ} (hat : AttachedAt m w i) (h : Attachment m)
    (addr : TcpAddr) (t : MessageType) :
    AttachedAt (Server.obey m addr t) w
      (if addr = w then nextPosition m.reader_sessions.size i t else i) := by
  split_ifs with haddr
  · subst haddr
    obtain ⟨q, hq, hre⟩ := h.reattached_obey hat t
    exact ⟨q, hre.mapped, by rw [hre.readers, hq]⟩
  · obtain ⟨c, hw, hi⟩ := hat
    cases hother : m.writer_connections.find? addr with
    | none =>
      rw [obey_of_not_attached hother]
      exact ⟨c, hw, hi⟩
    | some r =>
      obtain ⟨j, hj⟩ := h.exists_attachedAt hother
      obtain ⟨q, -, hre⟩ := h.reattached_obey hj t
      exact ⟨c, by rw [hre.others w (Ne.symm haddr), hw], by rw [hre.readers, hi]⟩

/-- The commands of `w`, in their order. -/
def commandsOf (convert : Double → ℤ) (w : TcpAddr) (posts : List Post) : List MessageType :=
  posts.filterMap fun post => if post.addr = w then post.command? convert else none

/-- Whatever the sessions hand over, a headset ends on the camera that its own commands lead to. -/
theorem attachedAt_postAll (convert : Double → ℤ) {w : TcpAddr} {i : ℕ} (h : Attachment m)
    (hat : AttachedAt m w i) (posts : List Post) :
    ∃ m', postAll convert m posts = .ok m' ∧ Attachment m' ∧
      m'.reader_sessions = m.reader_sessions ∧
      AttachedAt m' w
        ((commandsOf convert w posts).foldl (nextPosition m.reader_sessions.size) i) := by
  induction posts generalizing m i with
  | nil => exact ⟨m, rfl, h, rfl, hat⟩
  | cons post posts ih =>
    have hpost : postAll convert m (post :: posts) =
        Prod.fst <$> postWebsocketMessage convert m post >>= fun m => postAll convert m posts :=
      List.foldlM_cons
    rw [hpost, postWebsocketMessage_eq, commandsOf, List.filterMap_cons]
    cases hcommand : post.command? convert with
    | none =>
      -- The value is refused.
      rw [ite_self]
      exact ih h hat
    | some t =>
      obtain ⟨hkept, hreaders⟩ := h.obey post.addr t
      obtain ⟨m', hm', h', hreaders', hat'⟩ := ih hkept (hat.obey h post.addr t)
      refine ⟨m', hm', h', hreaders'.trans hreaders, ?_⟩
      rw [hreaders] at hat'
      split_ifs at hat' ⊢
      · exact hat'
      · exact hat'

/-- After a reset, the position is the number of rotations. -/
theorem foldl_nextPosition_reset (n i k : ℕ) (before : List MessageType) :
    (before ++ MessageType.HeadsetResetCamera ::
      List.replicate k MessageType.HeadsetRotateCamera).foldl (nextPosition n) i % n = k % n := by
  rw [List.foldl_append, List.foldl_cons, nextPosition]
  induction k with
  | zero => rfl
  | succ k ih =>
    rw [List.replicate_succ', List.foldl_append, List.foldl_cons, List.foldl_nil, nextPosition,
      Nat.mod_mod, ← Nat.mod_add_mod, ih, Nat.mod_add_mod]

/-- A headset that has sent a reset and then `k` rotations is on the `k`-th camera, counted round,
wherever it was, and whatever was sent before and in between by others. -/
theorem attachedAt_postAll_of_reset {w : TcpAddr} {i k : ℕ} {before : List MessageType}
    {posts : List Post} (h : Attachment m) (hat : AttachedAt m w i)
    (hcommands : commandsOf convert w posts =
      before ++ .HeadsetResetCamera :: List.replicate k .HeadsetRotateCamera) :
    ∃ m', postAll convert m posts = .ok m' ∧ AttachedAt m' w (k % m.reader_sessions.size) := by
  obtain ⟨m', hm', -, hreaders, c, hw, hi⟩ := attachedAt_postAll convert h hat posts
  refine ⟨m', hm', c, hw, ?_⟩
  have hlt := OrdMap.lt_size_of_getElem?_keys hi
  rw [hreaders] at hi hlt
  rw [hreaders, ← hi, hcommands, ← foldl_nextPosition_reset _ i k before,
    Nat.mod_eq_of_lt (hcommands ▸ hlt)]

end AugmentedNormalcy.Server
