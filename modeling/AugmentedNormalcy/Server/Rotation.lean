import AugmentedNormalcy.Foundation.Lists
import AugmentedNormalcy.Server.Attachment

/-!
# Rotating and resetting one headset

`RotateWriterConnection` and `ResetWriterConnection` are written separately and take the same
session from one list to another. Both come down to `sentTo m s q`, which takes `s` out of every
list and puts it at the back of that of `q`: a later move cancels an earlier one (`sentTo_sentTo`),
so `k` rotations are the one move to the `k`-th reader from the first one, and a reset is the
rotation that stops at the first reader (`rotations_and_reset`).
-/

namespace AugmentedNormalcy.Server

open ConnectionManager StepSystem

/-- The manager after the session `s` was taken out of its list and put at the back of that of
`q`. -/
def sentTo (m : ConnectionManager) (s : Writer) (q : TcpAddr) : ConnectionManager :=
  { m with
    reader_connections :=
      m.reader_connections.mapVal fun r l => if r = q then l.erase s ++ [s] else l.erase s
    writer_connections := m.writer_connections.insert s.addr q }

theorem find?_sentTo (m : ConnectionManager) (s : Writer) (q r : TcpAddr) :
    (sentTo m s q).reader_connections.find? r =
      (m.reader_connections.find? r).map fun l =>
        if r = q then l.erase s ++ [s] else l.erase s := OrdMap.find?_mapVal _ _ _

theorem find?_writer_sentTo (m : ConnectionManager) (s : Writer) (q w : TcpAddr) :
    (sentTo m s q).writer_connections.find? w =
      if w = s.addr then some q else m.writer_connections.find? w := OrdMap.find?_insert _ _ _ _

/-- A session that is not listed twice is moved once, whatever the last move was. -/
theorem sentTo_sentTo {m : ConnectionManager}
    (hnodup : ∀ {r l}, m.reader_connections.find? r = some l → l.Nodup) (s : Writer)
    (q q' : TcpAddr) : sentTo (sentTo m s q) s q' = sentTo m s q' := by
  refine ext_find? rfl rfl rfl (fun r => ?_) fun w => ?_
  · rw [find?_sentTo, find?_sentTo, find?_sentTo, Option.map_map]
    cases hl : m.reader_connections.find? r with
    | none => rfl
    | some l =>
      have hs : s ∉ l.erase s := (hnodup hl).not_mem_erase
      have herase : (if r = q then l.erase s ++ [s] else l.erase s).erase s = l.erase s := by
        split_ifs
        · rw [List.erase_append_right _ hs, List.erase_cons_head, List.append_nil]
        · exact List.erase_of_not_mem hs
      simp only [Option.map_some, Function.comp_apply, herase]
  · rw [find?_writer_sentTo, find?_writer_sentTo, find?_writer_sentTo]
    split_ifs <;> rfl

/-- Over linked maps, the move between two lists is `sentTo`. -/
theorem Linked.moveWriter_eq_sentTo {attached : TcpAddr → Option Writer} {m : ConnectionManager}
    (h : Linked attached m) {s : Writer} {c q : TcpAddr}
    (hw : m.writer_connections.find? s.addr = some c)
    (hq : (m.reader_connections.find? q).isSome) (hqc : q ≠ c) :
    Server.moveWriter m s c q = sentTo m s q := by
  obtain ⟨lq, hq⟩ := Option.isSome_iff_exists.mp hq
  obtain ⟨lc, hc⟩ := Option.isSome_iff_exists.mp (h.listed hw)
  -- Only the list of `c` holds the session.
  have hout : ∀ {r l}, r ≠ c → m.reader_connections.find? r = some l → l.erase s = l := by
    intro r l hrc hl
    refine List.erase_of_not_mem fun hs => hrc ?_
    have hr := ((h.mem_iff hl s).mp hs).2
    rw [hw] at hr
    exact (Option.some.inj hr).symm
  refine ext_find? rfl rfl rfl (fun r => ?_) fun w => rfl
  rw [find?_sentTo, find?_moveWriter hc hq]
  -- The list that the session leaves, the one that it joins, and any other.
  by_cases hrc : r = c
  · subst hrc
    simp [hc, Ne.symm hqc]
  · by_cases hrq : r = q
    · subst hrq
      simp [hrc, hq, hout hrc hq]
    · simp only [if_neg hrc, if_neg hrq]
      cases hl : m.reader_connections.find? r with
      | none => rfl
      | some l => rw [Option.map_some, hout hrc hl]

/-! ## What one call does -/

/-- A listed writer's rotation: nothing with one reader, and otherwise the move to the next. -/
theorem Attachment.rotateWriterConnection_eq {m : ConnectionManager} (h : Attachment m)
    {s : Writer} {c : TcpAddr} {i : ℕ} (hs : m.writer_sessions.find? s.addr = some s)
    (hw : m.writer_connections.find? s.addr = some c)
    (hi : m.reader_sessions.keys[i]? = some c) :
    if m.reader_sessions.size = 1 then m.rotateWriterConnection s.addr = (m, true)
    else ∃ q, m.reader_sessions.keys[(i + 1) % m.reader_sessions.size]? = some q ∧ q ≠ c ∧
      (m.reader_connections.find? q).isSome ∧
      m.rotateWriterConnection s.addr = (sentTo m s q, true) := by
  obtain ⟨s', lc, hs', hc, hmem⟩ := h.current hw
  obtain rfl : s' = s := Option.some.inj (hs'.symm.trans hs)
  have hreg : (m.reader_sessions.find? c).isSome := (h.reader_keys c).mp (by simp [hc])
  have hnotnone : m.reader_sessions.find? c ≠ none := Option.isSome_iff_ne_none.mp hreg
  split_ifs with hone
  · simp [rotateWriterConnection, hw, hnotnone, hone]
  -- There is another reader, so the cyclic successor is another one.
  · have hother := mt (OrdMap.size_eq_one_iff hreg).mpr hone
    push Not at hother
    obtain ⟨j, hj, hjc⟩ := hother
    obtain ⟨q, x, hq, hqc⟩ := OrdMap.exists_cyclicNext? hj hjc
    have hqs : (m.reader_sessions.find? q).isSome := by simp [OrdMap.cyclicNext?_eq_some hq]
    obtain ⟨lq, hlq⟩ := Option.isSome_iff_exists.mp ((h.reader_keys q).mpr hqs)
    obtain ⟨a, ls, rfl⟩ := List.exists_cons_of_ne_nil (List.ne_nil_of_mem hmem)
    -- The session that the call finds in the list is the registered one.
    obtain ⟨t, ht, hta, heq⟩ := moveConnection_eq h.linked hw hc hlq
    obtain rfl : t = s' := Option.some.inj ((attachedWriters_eq_some.mp ht).2.symm.trans hs)
    refine ⟨q, ?_, hqc, by simp [hlq], ?_⟩
    · rw [OrdMap.cyclicNext?_eq_getElem? hi] at hq
      simp [OrdMap.keys, hq]
    · rw [← h.linked.moveWriter_eq_sentTo hw (by simp [hlq]) hqc, ← heq]
      simp only [rotateWriterConnection, hw, if_neg hnotnone, if_neg hone, hc, hq, hlq]

/-- An attached writer's reset: nothing on the first reader, and otherwise the move to it. -/
theorem Attachment.resetWriterConnection_eq {m : ConnectionManager} (h : Attachment m)
    {s : Writer} {c : TcpAddr} {i : ℕ} (hs : m.writer_sessions.find? s.addr = some s)
    (hw : m.writer_connections.find? s.addr = some c)
    (hi : m.reader_sessions.keys[i]? = some c) :
    if i = 0 then m.resetWriterConnection s.addr = (m, true)
    else ∃ q, m.reader_sessions.keys[0]? = some q ∧ q ≠ c ∧
      (m.reader_connections.find? q).isSome ∧
      m.resetWriterConnection s.addr = (sentTo m s q, true) := by
  obtain ⟨s', lc, hs', hc, hmem⟩ := h.current hw
  obtain rfl : s' = s := Option.some.inj (hs'.symm.trans hs)
  obtain ⟨x, hx⟩ := Option.isSome_iff_exists.mp ((h.reader_keys c).mp (by simp [hc]))
  obtain ⟨hlt, hkey⟩ := List.getElem?_eq_some_iff.mp hi
  have hsize : 0 < m.reader_sessions.size :=
    (Nat.zero_le i).trans_lt (OrdMap.lt_size_of_getElem?_keys hi)
  obtain ⟨⟨q, y⟩, hbegin⟩ : ∃ e, m.reader_sessions.begin? = some e := by
    rw [OrdMap.begin?, List.head?_eq_getElem?]
    exact ⟨_, List.getElem?_eq_getElem hsize⟩
  have hq : m.reader_sessions.keys[0]? = some q := by
    rw [OrdMap.begin?, List.head?_eq_getElem?] at hbegin
    simp [OrdMap.keys, hbegin]
  obtain ⟨hlt0, hkey0⟩ := List.getElem?_eq_some_iff.mp hq
  -- The reader is the first one exactly at position 0.
  have hfirst : c = q ↔ i = 0 := by
    rw [← hkey, ← hkey0, m.reader_sessions.keys_nodup.getElem_inj_iff]
  split_ifs with hzero
  · simp only [resetWriterConnection, hw, hx, hbegin]
    rw [if_pos (Or.inr (hfirst.mpr hzero))]
  · have hqc : q ≠ c := fun e => hzero (hfirst.mp e.symm)
    obtain ⟨lq, hlq⟩ := Option.isSome_iff_exists.mp
      ((h.reader_keys q).mpr (by simp [(OrdMap.begin?_eq_some hbegin).1]))
    obtain ⟨a, ls, rfl⟩ := List.exists_cons_of_ne_nil (List.ne_nil_of_mem hmem)
    -- The session that the call finds in the list is the registered one.
    obtain ⟨t, ht, hta, heq⟩ := moveConnection_eq h.linked hw hc hlq
    obtain rfl : t = s' := Option.some.inj ((attachedWriters_eq_some.mp ht).2.symm.trans hs)
    have hmany : ¬ (m.reader_sessions.size = 1 ∨ c = q) := by
      rw [hfirst, not_or]
      exact ⟨by have := OrdMap.lt_size_of_getElem?_keys hi; omega, hzero⟩
    refine ⟨q, hq, hqc, by simp [hlq], ?_⟩
    rw [← h.linked.moveWriter_eq_sentTo hw (by simp [hlq]) hqc, ← heq]
    simp only [resetWriterConnection, hw, hx, hbegin, if_neg hmany, hc, hlq]

/-! ## Successive calls -/

/-- `k` successive calls of `RotateWriterConnection`, and whether all returned true. -/
def rotations (writer_addr : TcpAddr) (m : ConnectionManager) : ℕ → ConnectionManager × Bool
  | 0 => (m, true)
  | k + 1 =>
    let (m, ok) := rotations writer_addr m k
    let (m, ok') := m.rotateWriterConnection writer_addr
    (m, ok && ok')

/-- Rotations keep the attachment, and the sessions. -/
theorem Attachment.rotations {m : ConnectionManager} (h : Attachment m) (w : TcpAddr) (k : ℕ) :
    Attachment (Server.rotations w m k).1 ∧
      (Server.rotations w m k).1.reader_sessions = m.reader_sessions ∧
      (Server.rotations w m k).1.writer_sessions = m.writer_sessions := by
  induction k with
  | zero => exact ⟨h, rfl, rfl⟩
  | succ k ih =>
    obtain ⟨ih, hreaders, hwriters⟩ := ih
    have hmoved := ih.linked.moved_rotateWriterConnection w
    exact ⟨ih.moved hmoved, hmoved.readers.trans hreaders, hmoved.writers.trans hwriters⟩

/-- From the `i`-th reader, `k` rotations are one move to the reader at `i + k`, modulo the number
of readers. -/
theorem Attachment.rotations_eq {m : ConnectionManager} (h : Attachment m) {s : Writer}
    {c : TcpAddr} {i : ℕ} (hs : m.writer_sessions.find? s.addr = some s)
    (hw : m.writer_connections.find? s.addr = some c)
    (hi : m.reader_sessions.keys[i]? = some c) (k : ℕ) :
    ∃ q, m.reader_sessions.keys[(i + k) % m.reader_sessions.size]? = some q ∧
      Server.rotations s.addr m k =
        (if m.reader_sessions.size = 1 ∨ k = 0 then m else sentTo m s q, true) := by
  have hlt := OrdMap.lt_size_of_getElem?_keys hi
  induction k with
  | zero => exact ⟨c, by rw [Nat.add_zero, Nat.mod_eq_of_lt hlt, hi], by simp [Server.rotations]⟩
  | succ k ih =>
    obtain ⟨q, hq, heq⟩ := ih
    obtain ⟨hk, hreaders, hwriters⟩ := h.rotations s.addr k
    rw [heq] at hk hreaders hwriters
    dsimp only at hk hreaders hwriters
    by_cases hone : m.reader_sessions.size = 1
    · -- The only reader.
      rw [if_pos (Or.inl hone)] at heq
      have hstay := h.rotateWriterConnection_eq hs hw hi
      rw [if_pos hone] at hstay
      refine ⟨q, ?_, by simp [Server.rotations, heq, hstay, hone]⟩
      rw [← hq, hone, Nat.mod_one, Nat.mod_one]
    -- After `k` moves the writer is on `q`, wherever it started.
    · have hmapped : (if m.reader_sessions.size = 1 ∨ k = 0 then m else
          sentTo m s q).writer_connections.find? s.addr = some q := by
        split_ifs with hzero
        · obtain rfl := hzero.resolve_left hone
          rw [hw, ← hi, ← hq, Nat.add_zero, Nat.mod_eq_of_lt hlt]
        · simp [find?_writer_sentTo]
      have hstep := hk.rotateWriterConnection_eq (by rw [hwriters, hs]) hmapped
        (by rw [hreaders]; exact hq)
      rw [hreaders, if_neg hone] at hstep
      obtain ⟨q', hq', -, -, hrotate⟩ := hstep
      -- Two moves in a row are the last one.
      have hlast : sentTo (if m.reader_sessions.size = 1 ∨ k = 0 then m else sentTo m s q) s q' =
          sentTo m s q' := by
        split_ifs
        · rfl
        · exact sentTo_sentTo h.nodup s q q'
      refine ⟨q', by rw [← hq', ← Nat.add_assoc, Nat.mod_add_mod], ?_⟩
      rw [hlast] at hrotate
      simp only [Server.rotations, heq, hrotate]
      simp [hone]

/-! ## Rotation and reset -/

/-- From `m` to `m'` the writer `w` is moved to `q`, and nothing else has changed. -/
structure Reattached (w q : TcpAddr) (m m' : ConnectionManager) : Prop where
  attachment : Attachment m'
  number : m'.last_session_number = m.last_session_number
  readers : m'.reader_sessions = m.reader_sessions
  writers : m'.writer_sessions = m.writer_sessions
  mapped : m'.writer_connections.find? w = some q
  others : ∀ x ≠ w, m'.writer_connections.find? x = m.writer_connections.find? x
  /-- Every list holds the other writers in the order that it had. -/
  lists : ∀ r, (m'.reader_connections.find? r).map (List.filter fun s => s.addr ≠ w) =
    (m.reader_connections.find? r).map (List.filter fun s => s.addr ≠ w)

theorem reattached_sentTo {m : ConnectionManager} {s : Writer} {q : TcpAddr}
    (h : Attachment (sentTo m s q)) : Reattached s.addr q m (sentTo m s q) := by
  refine ⟨h, rfl, rfl, rfl, by simp [find?_writer_sentTo], fun x hx => ?_, fun r => ?_⟩
  · rw [find?_writer_sentTo, if_neg hx]
  · rw [find?_sentTo, Option.map_map]
    refine congrArg (fun f => (m.reader_connections.find? r).map f) (funext fun l => ?_)
    have herase := List.filter_erase_of_neg (p := fun t : Writer => t.addr ≠ s.addr) (s := s)
      (by simp) l
    rw [Function.comp_apply]
    split_ifs
    · rw [List.filter_append, herase]
      simp
    · exact herase

/-- `k` rotations of an attached writer all succeed, and move it from the `i`-th reader to the
reader at `i + k`, modulo the number of readers. -/
theorem Attachment.reattached_rotations {m : ConnectionManager} (h : Attachment m)
    {w c : TcpAddr} {i : ℕ} (hw : m.writer_connections.find? w = some c)
    (hi : m.reader_sessions.keys[i]? = some c) (k : ℕ) :
    (Server.rotations w m k).2 = true ∧ ∃ q,
      m.reader_sessions.keys[(i + k) % m.reader_sessions.size]? = some q ∧
        Reattached w q m (Server.rotations w m k).1 := by
  obtain ⟨s, -, hs, -⟩ := h.current hw
  obtain rfl := h.keyed hs
  obtain ⟨q, hq, heq⟩ := h.rotations_eq hs hw hi k
  have hk := (h.rotations s.addr k).1
  have hlt := OrdMap.lt_size_of_getElem?_keys hi
  rw [heq] at hk ⊢
  refine ⟨rfl, q, hq, ?_⟩
  dsimp only at hk ⊢
  split_ifs at hk ⊢ with hstay
  · -- The writer is where it was.
    have hqc : q = c := by
      rcases hstay with hone | rfl
      · have hi0 : i = 0 := by omega
        rw [hone, Nat.mod_one, ← hi0, hi] at hq
        exact (Option.some.inj hq).symm
      · rw [Nat.add_zero, Nat.mod_eq_of_lt hlt, hi] at hq
        exact (Option.some.inj hq).symm
    exact ⟨h, rfl, rfl, rfl, by rw [hw, hqc], fun _ _ => rfl, fun _ => rfl⟩
  · exact reattached_sentTo hk

/-- Counting round from `i < n`, each position comes up once in `n` steps. -/
theorem existsUnique_add_mod {n i j : ℕ} (hi : i < n) (hj : j < n) :
    ∃! k, (1 ≤ k ∧ k ≤ n) ∧ (i + k) % n = j := by
  -- At most one wrap-around.
  have hmod : ∀ k, k ≤ n → (i + k) % n = if i + k < n then i + k else i + k - n := by
    intro k hk
    split_ifs with hlt
    · exact Nat.mod_eq_of_lt hlt
    · rw [Nat.mod_eq_sub_mod (by omega), Nat.mod_eq_of_lt (by omega)]
  refine ⟨if i < j then j - i else j + n - i, ⟨by split_ifs <;> omega, ?_⟩, ?_⟩
  · rw [hmod _ (by split_ifs <;> omega)]
    split_ifs <;> omega
  · rintro k ⟨⟨hk1, hkn⟩, hk⟩
    rw [hmod k hkn] at hk
    split_ifs at hk ⊢ <;> omega

section Attached

variable {m : ConnectionManager} {w c : TcpAddr} {i : ℕ}

/-- `n` rotations pass every reader once. -/
theorem Attachment.existsUnique_rotation (h : Attachment m)
    (hw : m.writer_connections.find? w = some c) (hi : m.reader_sessions.keys[i]? = some c)
    {r : TcpAddr} (hr : (m.reader_sessions.find? r).isSome) :
    ∃! k, (1 ≤ k ∧ k ≤ m.reader_sessions.size) ∧
      (Server.rotations w m k).1.writer_connections.find? w = some r := by
  have hlt := OrdMap.lt_size_of_getElem?_keys hi
  obtain ⟨j, hj, hjr⟩ := OrdMap.exists_getElem?_keys hr
  -- The reader after `k` rotations is `r` exactly when the position is that of `r`.
  have hat : ∀ k, (Server.rotations w m k).1.writer_connections.find? w = some r ↔
      (i + k) % m.reader_sessions.size = j := by
    intro k
    obtain ⟨-, q, hq, hre⟩ := h.reattached_rotations hw hi k
    rw [hre.mapped, Option.some.injEq]
    constructor
    · rintro rfl
      have hlt' : (i + k) % m.reader_sessions.size < m.reader_sessions.keys.length :=
        (List.getElem?_eq_some_iff.mp hq).1
      exact (List.getElem?_inj hlt' m.reader_sessions.keys_nodup).mp (hq.trans hjr.symm)
    · intro hk
      rw [hk, hjr] at hq
      exact (Option.some.inj hq).symm
  simp only [hat]
  exact existsUnique_add_mod hlt hj

/-- After `n` rotations every writer is on the reader that it was on. -/
theorem Attachment.rotations_size (h : Attachment m)
    (hw : m.writer_connections.find? w = some c) (hi : m.reader_sessions.keys[i]? = some c) :
    (Server.rotations w m m.reader_sessions.size).1.writer_connections = m.writer_connections := by
  obtain ⟨-, q, hq, hre⟩ := h.reattached_rotations hw hi m.reader_sessions.size
  have hlt := OrdMap.lt_size_of_getElem?_keys hi
  rw [Nat.add_mod_right, Nat.mod_eq_of_lt hlt, hi] at hq
  apply OrdMap.ext_find?
  intro x
  by_cases hx : x = w
  · rw [hx, hre.mapped, hw, hq]
  · exact hre.others x hx

/-- A reset is the rotations that end on the first reader. -/
theorem Attachment.resetWriterConnection_eq_rotations (h : Attachment m)
    (hw : m.writer_connections.find? w = some c) (hi : m.reader_sessions.keys[i]? = some c) :
    m.resetWriterConnection w =
      ((Server.rotations w m ((m.reader_sessions.size - i) % m.reader_sessions.size)).1, true) := by
  obtain ⟨s, -, hs, -⟩ := h.current hw
  obtain rfl := h.keyed hs
  have hlt := OrdMap.lt_size_of_getElem?_keys hi
  obtain ⟨q, hq, heq⟩ := h.rotations_eq hs hw hi
    ((m.reader_sessions.size - i) % m.reader_sessions.size)
  have hreset := h.resetWriterConnection_eq hs hw hi
  rw [heq]
  split_ifs at hreset with hzero
  · rw [if_pos (Or.inr (by rw [hzero, Nat.sub_zero, Nat.mod_self]))]
    exact hreset
  -- `n - i` steps from `i` end at position 0.
  · obtain ⟨q', hq', -, -, hreset⟩ := hreset
    rw [Nat.mod_eq_of_lt (by omega : m.reader_sessions.size - i < m.reader_sessions.size)] at hq ⊢
    rw [Nat.add_sub_cancel' hlt.le, Nat.mod_self, hq'] at hq
    rw [if_neg (by omega), hreset, Option.some.inj hq]

/-- A second reset finds the writer on the first reader. -/
theorem Attachment.resetWriterConnection_twice (h : Attachment m)
    (hw : m.writer_connections.find? w = some c) (hi : m.reader_sessions.keys[i]? = some c) :
    (m.resetWriterConnection w).1.resetWriterConnection w =
      ((m.resetWriterConnection w).1, true) := by
  have hlt := OrdMap.lt_size_of_getElem?_keys hi
  obtain ⟨-, q, hq, hre⟩ := h.reattached_rotations hw hi
    ((m.reader_sessions.size - i) % m.reader_sessions.size)
  -- The first reset ends at position 0, where a reset does nothing.
  have hfirst : (i + (m.reader_sessions.size - i) % m.reader_sessions.size) %
      m.reader_sessions.size = 0 := by
    rw [Nat.add_mod_mod, Nat.add_sub_cancel' hlt.le, Nat.mod_self]
  rw [hfirst] at hq
  rw [h.resetWriterConnection_eq_rotations hw hi]
  obtain ⟨s, -, hs, -⟩ := hre.attachment.current hre.mapped
  obtain rfl := hre.attachment.keyed hs
  have hstay := hre.attachment.resetWriterConnection_eq hs hre.mapped (by rw [hre.readers, hq])
  rwa [if_pos rfl] at hstay

end Attached

/-- For a writer on the `i`-th of `n` readers, rotations go through the readers in order and return
to the start after `n`, and a reset is `(n - i) % n` rotations, order of the lists included. Neither
does anything for an address that is not attached. -/
theorem rotations_and_reset {m : ConnectionManager} (h : Attachment m) (w : TcpAddr) :
    (∀ i c, m.writer_connections.find? w = some c → m.reader_sessions.keys[i]? = some c →
      (∀ k, (rotations w m k).2 = true ∧ ∃ q,
        m.reader_sessions.keys[(i + k) % m.reader_sessions.size]? = some q ∧
          Reattached w q m (rotations w m k).1) ∧
      (∀ r, (m.reader_sessions.find? r).isSome → ∃! k, (1 ≤ k ∧ k ≤ m.reader_sessions.size) ∧
        (rotations w m k).1.writer_connections.find? w = some r) ∧
      (rotations w m m.reader_sessions.size).1.writer_connections = m.writer_connections ∧
      m.resetWriterConnection w =
        ((rotations w m ((m.reader_sessions.size - i) % m.reader_sessions.size)).1, true) ∧
      (m.resetWriterConnection w).1.resetWriterConnection w =
        ((m.resetWriterConnection w).1, true)) ∧
    (m.writer_connections.find? w = none →
      m.rotateWriterConnection w = (m, false) ∧ m.resetWriterConnection w = (m, false)) := by
  refine ⟨fun i c hw hi => ?_, fun hw => ?_⟩
  · exact ⟨h.reattached_rotations hw hi, fun r hr => h.existsUnique_rotation hw hi hr,
      h.rotations_size hw hi, h.resetWriterConnection_eq_rotations hw hi,
      h.resetWriterConnection_twice hw hi⟩
  · exact ⟨by simp [rotateWriterConnection, hw], by simp [resetWriterConnection, hw]⟩

/-- Two rotations of the first headset, with three cameras. -/
theorem rotations_and_reset_three : ∃ s, run Sequential.step Sequential.initial
    [.addReaderSession ⟨1, 10⟩, .addReaderSession ⟨2, 11⟩, .addReaderSession ⟨3, 12⟩,
      .addWriterSession ⟨4, 20⟩, .addWriterSession ⟨5, 21⟩] = some s ∧
    (rotations 20 s.manager 2).2 = true ∧ ∃ q,
      s.manager.reader_sessions.keys[(0 + 2) % s.manager.reader_sessions.size]? = some q ∧
        Reattached 20 q s.manager (rotations 20 s.manager 2).1 := by
  obtain ⟨s, hs, hw, hi⟩ : ∃ s, run Sequential.step Sequential.initial
      [.addReaderSession ⟨1, 10⟩, .addReaderSession ⟨2, 11⟩, .addReaderSession ⟨3, 12⟩,
        .addWriterSession ⟨4, 20⟩, .addWriterSession ⟨5, 21⟩] = some s ∧
      s.manager.writer_connections.find? 20 = some 10 ∧
      s.manager.reader_sessions.keys[0]? = some 10 := ⟨_, rfl, rfl, rfl⟩
  have hfull := Sequential.fullyAttached_of_run (by decide +kernel) hs
  exact ⟨s, hs, ((rotations_and_reset hfull.toAttachment 20).1 0 10 hw hi).1 2⟩

end AugmentedNormalcy.Server
