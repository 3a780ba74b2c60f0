import AugmentedNormalcy.Foundation.Lists
import AugmentedNormalcy.Bms.SerialBms
import AugmentedNormalcy.Foundation.Run

/-!
# Reports and the packets they come from

The line carries packets one after the other, and `ReadBinary` cuts them anywhere. The reader parses
whatever it has once there are 100 bytes, so the last packet may be there in part: a match in it
replaces the value of the packet before, and a number at the end may lack digits. What a report
carries is determined by the packets alone, not by where the buffer begins (`report_eq`): the values
that the part of the last packet shows, and for the others those of the last complete packet. So
every report is that of a complete packet exactly when, at each report, these are the values of one
(`throughout_genuine_iff`). -/

namespace AugmentedNormalcy.Bms

open Scan StepSystem

/-- A packet of the UPS. -/
structure Packet where
  bytes : List Char
  plugged_in : Bool
  level : ℕ
  begins : bytes.head? = some '$'
  ends : bytes.getLast? = some '$'
  version_once : found (word version_clause ()) bytes = [()]
  /-- There is one `Vin` field. -/
  vin_once : found vin_pattern bytes = [plugged_in]
  /-- There is one `BATCAP` field. -/
  batcap_once : (found batcap_pattern bytes).length = 1
  /-- It holds the level, with something other than a digit behind it. -/
  batcap_field : ∃ s blanks c rest, c.isDigit = false ∧ (∀ b ∈ blanks, isSpace b = true) ∧
    bytes = s ++ "BATCAP".toList ++ blanks ++ Nat.toDigits 10 level ++ c :: rest
  level_le : level ≤ 100

/-- The bytes that the line carries. -/
def stream (packets : List Packet) : List Char := packets.flatMap Packet.bytes

/-- The packets that have been received completely. -/
def completed : List Packet → List Char → List Packet
  | [], _ => []
  | p :: packets, received =>
    if p.bytes <+: received then p :: completed packets (received.drop p.bytes.length) else []

/-- What has been received of the packet after them. -/
def partialPacket : List Packet → List Char → List Char
  | [], received => received
  | p :: packets, received =>
    if p.bytes <+: received then partialPacket packets (received.drop p.bytes.length) else received

/-- The reader, and what the line has carried so far. -/
structure Line where
  bms : SerialBms
  received : List Char
deriving DecidableEq

/-- Nothing was received. -/
def Line.initial : Line := ⟨.initial, []⟩

/-- `ReadBinary` returns the next bytes of the line, as many as it likes. -/
def Line.step (shutdown_threshold : ℤ) (packets : List Packet) (s : Line) (chunk : List Char) :
    Option Line :=
  if s.received ++ chunk <+: stream packets then
    some ⟨s.bms.readAndReport shutdown_threshold chunk, s.received ++ chunk⟩
  else none

/-- A message has the values of the packet. -/
def Packet.Gives (p : Packet) (shutdown_threshold : ℤ) (msg : BmsMessage) : Prop :=
  msg = ⟨p.level, p.plugged_in, decide ((p.level : ℤ) ≤ shutdown_threshold)⟩

/-- Every message that was posted has the values of a packet that has been received completely. -/
def Genuine (shutdown_threshold : ℤ) (packets : List Packet) (s : Line) : Prop :=
  ∀ msg ∈ s.bms.posted, ∃ p ∈ completed packets s.received, p.Gives shutdown_threshold msg

/-- The next turn of the loop reports: it has 100 bytes, and they show what a report needs. -/
def Reports (s : SerialBms) (chunk : List Char) : Prop :=
  chunk ≠ [] ∧ 100 ≤ (s.bms_read_buffer ++ chunk).length ∧
    2 ≤ (s.bms_read_buffer ++ chunk).count '$' ∧
    version_clause <:+: s.bms_read_buffer ++ chunk ∧
    found vin_pattern (s.bms_read_buffer ++ chunk) ≠ [] ∧
    found batcap_pattern (s.bms_read_buffer ++ chunk) ≠ []

/-- The value of `Vin` that the packets show so far. -/
def shownPluggedIn (packets : List Packet) (received : List Char) : Option Bool :=
  ((completed packets received).map Packet.plugged_in ++
    found vin_pattern (partialPacket packets received)).getLast?

/-- The value of `BATCAP` that the packets show so far, of the last one perhaps not all digits. -/
def shownLevel (packets : List Packet) (received : List Char) : Option ℕ :=
  ((completed packets received).map Packet.level ++
    found batcap_pattern (partialPacket packets received)).getLast?

/-- The packet of which a part has been received shows neither value yet. -/
def ShowsNothing (packets : List Packet) (received : List Char) : Prop :=
  found vin_pattern (partialPacket packets received) = [] ∧
    found batcap_pattern (partialPacket packets received) = []

/-- At a report, the packet of which a part has been received shows neither value yet, or the values
shown with it happen to be those of a packet that has been received completely. -/
def ShowsComplete (packets : List Packet) (s : Line) (chunk : List Char) : Prop :=
  Reports s.bms chunk → ShowsNothing packets (s.received ++ chunk) ∨
    ∃ p ∈ completed packets (s.received ++ chunk),
      shownPluggedIn packets (s.received ++ chunk) = some p.plugged_in ∧
        shownLevel packets (s.received ++ chunk) = some p.level

/-! ## What is found in a packet -/

/-- The decimals up to 100, as the pattern reads them. -/
def readsAs : List Char → ℕ → Bool
  | [a], n => a.isDigit && digit a == n
  | [a, b], n => a.isDigit && a ≠ '0' && b.isDigit && 10 * digit a + digit b == n
  | [a, b, c], n => a == '1' && b == '0' && c == '0' && n == 100
  | _, _ => false

/-- The decimal digits of a percentage are read as the percentage. -/
theorem readsAs_toDigits : ∀ n ∈ List.range 101, readsAs (Nat.toDigits 10 n) n = true := by
  decide

/-- Behind fewer than three digits, the word `100` does not match. -/
theorem word_100_eq_none {digits : List Char} {c : Char} {rest : List Char} (hc : c.isDigit = false)
    (hdigits : digits.length < 3) : word "100".toList 100 (digits ++ c :: rest) = none := by
  unfold word
  rw [Option.map_eq_none_iff, Option.eq_none_iff_forall_ne_some]
  intro r hr
  have heq : digits ++ c :: rest = ['1', '0', '0'] ++ r := dropPrefix?_eq_some.mp hr
  have hmem : c ∈ ['1', '0', '0'] := by
    have hget : (digits ++ c :: rest)[digits.length]? = some c := by simp
    rw [heq, List.getElem?_append_left (by simpa using hdigits)] at hget
    exact List.mem_of_getElem? hget
  have : c = '1' ∨ c = '0' := by simpa using hmem
  rcases this with rfl | rfl <;> cases hc

/-- The pattern reads a level up to a symbol that is not a digit. -/
theorem orElse_toDigits {n : ℕ} (hn : n ≤ 100) {c : Char} (hc : c.isDigit = false)
    (rest : List Char) :
    orElse (word "100".toList 100) twoDigits (Nat.toDigits 10 n ++ c :: rest) =
      some (n, c :: rest) := by
  have hreads := readsAs_toDigits n (List.mem_range.mpr (by omega))
  generalize Nat.toDigits 10 n = digits at hreads
  match digits, hreads with
  | [a], hreads =>
    simp only [readsAs, Bool.and_eq_true, beq_iff_eq] at hreads
    unfold orElse
    rw [word_100_eq_none hc (by simp), Option.none_or]
    simp [twoDigits, hc, hreads]
  | [a, b], hreads =>
    simp only [readsAs, Bool.and_eq_true, beq_iff_eq] at hreads
    unfold orElse
    rw [word_100_eq_none hc (by simp), Option.none_or]
    simp [twoDigits, hreads]
  | [a, b, d], hreads =>
    simp only [readsAs, Bool.and_eq_true, beq_iff_eq] at hreads
    obtain ⟨⟨⟨rfl, rfl⟩, rfl⟩, rfl⟩ := hreads
    rfl

/-- A digit is no space. -/
theorem isSpace_eq_false {a : Char} (ha : a.isDigit = true) : isSpace a = false := by
  rw [Bool.eq_false_iff]
  intro hspace
  simp only [isSpace, Bool.or_eq_true, decide_eq_true_eq] at hspace
  rcases hspace with ((((rfl | rfl) | rfl) | rfl) | rfl) | rfl <;> cases ha

/-- A level begins with a digit, so it is not skipped. -/
theorem dropWhile_toDigits {n : ℕ} (hn : n ≤ 100) (rest : List Char) :
    (Nat.toDigits 10 n ++ rest).dropWhile isSpace = Nat.toDigits 10 n ++ rest := by
  have hreads := readsAs_toDigits n (List.mem_range.mpr (by omega))
  obtain ⟨a, digits, heq, ha⟩ : ∃ a digits, Nat.toDigits 10 n = a :: digits ∧ a.isDigit = true := by
    generalize Nat.toDigits 10 n = digits at hreads
    match digits, hreads with
    | [a], hreads => exact ⟨a, [], rfl, by simp_all [readsAs]⟩
    | [a, b], hreads => exact ⟨a, [b], rfl, by simp_all [readsAs]⟩
    | [a, b, c], hreads => exact ⟨a, [b, c], rfl, by simp_all [readsAs]⟩
  rw [heq, List.cons_append, List.dropWhile_cons_of_neg]
  rw [isSpace_eq_false ha]
  exact Bool.false_ne_true

theorem Packet.found_batcap (p : Packet) : found batcap_pattern p.bytes = [p.level] := by
  obtain ⟨x, hx⟩ := List.length_eq_one_iff.mp p.batcap_once
  obtain ⟨s, blanks, c, rest, hc, hblanks, hbytes⟩ := p.batcap_field
  -- The pattern matches at the field, so the field is the one match.
  have hmatch : batcap_pattern
      ("BATCAP".toList ++ (blanks ++ (Nat.toDigits 10 p.level ++ c :: rest))) =
      some (p.level, c :: rest) := by
    unfold batcap_pattern after
    rw [dropPrefix?_eq_some.mpr rfl]
    show orElse (word "100".toList 100) twoDigits
      ((blanks ++ (Nat.toDigits 10 p.level ++ c :: rest)).dropWhile isSpace) = _
    rw [List.dropWhile_append_of_pos hblanks, dropWhile_toDigits p.level_le,
      orElse_toDigits p.level_le hc]
  have hmem : p.level ∈ found batcap_pattern p.bytes := by
    refine (found_suffix ⟨s, ?_⟩).mem (?_ : p.level ∈ found batcap_pattern
      ("BATCAP".toList ++ (blanks ++ (Nat.toDigits 10 p.level ++ c :: rest))))
    · rw [hbytes]
      simp only [List.append_assoc]
    · exact List.mem_append_left _ (by
        show p.level ∈ ((batcap_pattern ("BATCAP".toList ++ _)).map Prod.fst).toList
        rw [hmatch]
        exact List.mem_cons_self)
  rw [hx] at hmem ⊢
  rw [List.mem_singleton.mp hmem]

/-! ## What is found in the bytes of the line -/

section Received

variable {packets : List Packet} {received : List Char}

/-- The line is found in pieces: the packets that are complete, and the part of the next one. -/
theorem found_received {β : Type*} {m : Pattern Char β} (hm : IsDelimiter '$' m) :
    ∀ (packets : List Packet) (received : List Char),
      found m received = (completed packets received).flatMap (fun p => found m p.bytes) ++
        found m (partialPacket packets received)
  | [], _ => rfl
  | p :: packets, received => by
    by_cases hp : p.bytes <+: received
    · obtain ⟨rest, rfl⟩ := hp
      rw [completed, partialPacket, if_pos (List.prefix_append _ _),
        if_pos (List.prefix_append _ _), List.drop_left, found_append hm rest p.ends,
        found_received hm packets rest, List.flatMap_cons, List.append_assoc]
    · rw [completed, partialPacket, if_neg hp, if_neg hp]
      rfl

theorem getLast?_found_vin (packets : List Packet) (received : List Char) :
    (found vin_pattern received).getLast? = shownPluggedIn packets received := by
  rw [found_received isDelimiter_vin_pattern packets, shownPluggedIn, List.map_eq_flatMap]
  simp only [Packet.vin_once]

theorem getLast?_found_batcap (packets : List Packet) (received : List Char) :
    (found batcap_pattern received).getLast? = shownLevel packets received := by
  rw [found_received isDelimiter_batcap_pattern packets, shownLevel, List.map_eq_flatMap]
  simp only [Packet.found_batcap]

/-- More bytes complete more packets. -/
theorem completed_append (chunk : List Char) :
    ∀ (packets : List Packet) (received : List Char),
      completed packets received <+: completed packets (received ++ chunk)
  | [], _ => List.prefix_refl _
  | p :: packets, received => by
    by_cases hp : p.bytes <+: received
    · obtain ⟨rest, rfl⟩ := hp
      rw [completed, completed, if_pos (List.prefix_append _ _), List.append_assoc,
        if_pos (List.prefix_append _ _), List.drop_left, List.drop_left, List.prefix_cons_inj]
      exact completed_append chunk packets rest
    · rw [completed, if_neg hp]
      exact List.nil_prefix

/-- The packets that arrived are the first ones. -/
theorem completed_isPrefix : ∀ (packets : List Packet) (received : List Char),
    completed packets received <+: packets
  | [], _ => List.prefix_refl _
  | p :: packets, received => by
    rw [completed]
    split_ifs with hp
    · exact List.prefix_cons_inj p |>.mpr (completed_isPrefix packets _)
    · exact List.nil_prefix

/-- When the part of a packet shows nothing, the values shown are those of the last complete one. -/
theorem ShowsNothing.exists_packet (h : ShowsNothing packets received)
    (hvin : found vin_pattern received ≠ []) :
    ∃ p ∈ completed packets received, shownPluggedIn packets received = some p.plugged_in ∧
      shownLevel packets received = some p.level := by
  have hne : completed packets received ≠ [] := by
    intro hnil
    apply hvin
    rw [found_received isDelimiter_vin_pattern packets, hnil, h.1]
    rfl
  refine ⟨(completed packets received).getLast hne, List.getLast_mem hne, ?_, ?_⟩
  · rw [shownPluggedIn, h.1, List.append_nil, List.getLast?_map,
      List.getLast?_eq_some_getLast hne]
    rfl
  · rw [shownLevel, h.2, List.append_nil, List.getLast?_map, List.getLast?_eq_some_getLast hne]
    rfl

end Received

/-! ## What a report carries -/

theorem tryParseResponse_eq_some {shutdown_threshold : ℤ} {input : List Char} {msg : BmsMessage} :
    tryParseResponse shutdown_threshold input = some msg ↔
      2 ≤ input.count '$' ∧ version_clause <:+: input ∧
        (found vin_pattern input).getLast? = some msg.bms_is_plugged_in ∧
        (found batcap_pattern input).getLast? = some msg.battery_level ∧
        msg.bms_wants_shutdown = decide ((msg.battery_level : ℤ) ≤ shutdown_threshold) := by
  unfold tryParseResponse
  rw [iterate_eq_found noOverlap_vin_pattern, iterate_eq_found noOverlap_batcap_pattern]
  by_cases hcount : input.count '$' < 2
  · rw [if_pos hcount]
    exact iff_of_false (Option.some_ne_none msg).symm fun h => by omega
  rw [if_neg hcount]
  by_cases hversion : version_clause <:+: input
  swap
  · rw [if_pos hversion]
    exact iff_of_false (Option.some_ne_none msg).symm fun h => hversion h.2.1
  rw [if_neg (not_not_intro hversion)]
  have hcount' : 2 ≤ input.count '$' := by omega
  cases (found vin_pattern input).getLast? with
  | none => simp
  | some plugged_in =>
    cases (found batcap_pattern input).getLast? with
    | none => simp
    | some level =>
      cases msg
      simp only [Option.some.injEq, BmsMessage.mk.injEq, hcount', hversion, true_and]
      constructor
      · rintro ⟨rfl, rfl, rfl⟩
        exact ⟨rfl, rfl, rfl⟩
      · rintro ⟨rfl, rfl, hshutdown⟩
        exact ⟨rfl, rfl, hshutdown.symm⟩

/-- A report carries the values that the packets show, wherever the buffer begins. -/
theorem report_eq {shutdown_threshold : ℤ} (packets : List Packet) {received buffer : List Char}
    {msg : BmsMessage} (hbuffer : buffer <:+ received)
    (h : tryParseResponse shutdown_threshold buffer = some msg) :
    shownPluggedIn packets received = some msg.bms_is_plugged_in ∧
      shownLevel packets received = some msg.battery_level ∧
      msg.bms_wants_shutdown = decide ((msg.battery_level : ℤ) ≤ shutdown_threshold) := by
  obtain ⟨-, -, hvin, hbatcap, hshutdown⟩ := tryParseResponse_eq_some.mp h
  rw [← getLast?_found_vin, ← getLast?_found_batcap]
  exact ⟨List.getLast?_of_suffix (found_suffix hbuffer) hvin,
    List.getLast?_of_suffix (found_suffix hbuffer) hbatcap, hshutdown⟩

/-! ## The turns of the loop -/

theorem tryParseResponse_isSome {shutdown_threshold : ℤ} {input : List Char}
    (hcount : 2 ≤ input.count '$') (hversion : version_clause <:+: input)
    (hvin : found vin_pattern input ≠ []) (hbatcap : found batcap_pattern input ≠ []) :
    ∃ msg, tryParseResponse shutdown_threshold input = some msg := by
  let level := (found batcap_pattern input).getLast hbatcap
  refine ⟨⟨level, (found vin_pattern input).getLast hvin,
    decide ((level : ℤ) ≤ shutdown_threshold)⟩,
    tryParseResponse_eq_some.mpr ⟨hcount, hversion, ?_, ?_, rfl⟩⟩
  · exact List.getLast?_eq_some_getLast hvin
  · exact List.getLast?_eq_some_getLast hbatcap

theorem readAndReport_of_reports {s : SerialBms} {chunk : List Char} (h : Reports s chunk)
    (shutdown_threshold : ℤ) :
    ∃ msg, tryParseResponse shutdown_threshold (s.bms_read_buffer ++ chunk) = some msg ∧
      s.readAndReport shutdown_threshold chunk = ⟨[], s.posted ++ [msg]⟩ := by
  obtain ⟨hchunk, hlength, hcount, hversion, hvin, hbatcap⟩ := h
  obtain ⟨msg, hmsg⟩ : ∃ msg,
      tryParseResponse shutdown_threshold (s.bms_read_buffer ++ chunk) = some msg :=
    tryParseResponse_isSome hcount hversion hvin hbatcap
  refine ⟨msg, hmsg, ?_⟩
  simp only [SerialBms.readAndReport, if_neg hchunk, if_neg (Nat.not_lt.mpr hlength), hmsg]

theorem readAndReport_of_not_reports {s : SerialBms} {chunk : List Char} (h : ¬ Reports s chunk)
    (shutdown_threshold : ℤ) :
    s.readAndReport shutdown_threshold chunk = ⟨s.bms_read_buffer ++ chunk, s.posted⟩ := by
  unfold SerialBms.readAndReport
  by_cases hchunk : chunk = []
  · rw [if_pos hchunk, hchunk, List.append_nil]
  rw [if_neg hchunk]
  by_cases hlength : (s.bms_read_buffer ++ chunk).length < 100
  · simp only [if_pos hlength]
  simp only [if_neg hlength]
  cases hmsg : tryParseResponse shutdown_threshold (s.bms_read_buffer ++ chunk) with
  | none => rfl
  | some msg =>
    obtain ⟨hcount, hversion, hvin, hbatcap, -⟩ := tryParseResponse_eq_some.mp hmsg
    refine absurd ⟨hchunk, Nat.not_lt.mp hlength, hcount, hversion, ?_, ?_⟩ h
    · exact List.ne_nil_of_mem (List.mem_of_getLast? hvin)
    · exact List.ne_nil_of_mem (List.mem_of_getLast? hbatcap)

section Runs

variable {shutdown_threshold : ℤ} {packets : List Packet} {s s' : Line} {chunk : List Char}

/-- What a run keeps as long as its reports are genuine: the buffer holds the last bytes that were
received. -/
structure Inv (shutdown_threshold : ℤ) (packets : List Packet) (s : Line) : Prop where
  buffer : s.bms.bms_read_buffer <:+ s.received
  genuine : Genuine shutdown_threshold packets s

theorem step_eq_some (hs : s.step shutdown_threshold packets chunk = some s') :
    s' = ⟨s.bms.readAndReport shutdown_threshold chunk, s.received ++ chunk⟩ := by
  obtain ⟨-, heq⟩ := Option.ite_none_right_eq_some.mp hs
  exact (Option.some.inj heq).symm

/-- A report is that of a complete packet exactly when the values shown are those of one. -/
theorem gives_iff {msg : BmsMessage} (hbuffer : s.bms.bms_read_buffer <:+ s.received)
    (hmsg : tryParseResponse shutdown_threshold (s.bms.bms_read_buffer ++ chunk) = some msg)
    (p : Packet) :
    p.Gives shutdown_threshold msg ↔
      shownPluggedIn packets (s.received ++ chunk) = some p.plugged_in ∧
        shownLevel packets (s.received ++ chunk) = some p.level := by
  obtain ⟨hvin, hlevel, hshutdown⟩ := report_eq packets
    (List.suffix_append_self_iff.mpr hbuffer) hmsg
  rw [hvin, hlevel]
  cases msg
  simp only [Packet.Gives, BmsMessage.mk.injEq, Option.some.injEq]
  constructor
  · rintro ⟨rfl, rfl, -⟩
    exact ⟨rfl, rfl⟩
  · rintro ⟨rfl, rfl⟩
    exact ⟨rfl, rfl, hshutdown⟩

/-- The messages that were genuine stay so. -/
theorem Genuine.received_append (h : Genuine shutdown_threshold packets s) :
    ∀ msg ∈ s.bms.posted, ∃ p ∈ completed packets (s.received ++ chunk),
      p.Gives shutdown_threshold msg := by
  intro msg hmsg
  obtain ⟨p, hp, hgives⟩ := h msg hmsg
  exact ⟨p, (completed_append chunk packets s.received).subset hp, hgives⟩

/-- A chunk that shows a complete report keeps the invariant. -/
theorem Inv.step (hI : Inv shutdown_threshold packets s) (hP : ShowsComplete packets s chunk)
    (hs : s.step shutdown_threshold packets chunk = some s') :
    Inv shutdown_threshold packets s' := by
  obtain rfl := step_eq_some hs
  by_cases hreports : Reports s.bms chunk
  · obtain ⟨msg, hmsg, heq⟩ := readAndReport_of_reports hreports shutdown_threshold
    rw [heq]
    refine ⟨List.nil_suffix, ?_⟩
    intro msg' hmem
    rcases List.mem_append.mp hmem with hold | hnew
    · exact hI.genuine.received_append msg' hold
    obtain rfl := List.mem_singleton.mp hnew
    -- Some complete packet has the values that are shown.
    have hshown : ∃ p ∈ completed packets (s.received ++ chunk),
        shownPluggedIn packets (s.received ++ chunk) = some p.plugged_in ∧
          shownLevel packets (s.received ++ chunk) = some p.level := by
      rcases hP hreports with hnothing | hshown
      · apply hnothing.exists_packet
        obtain ⟨hvin, -⟩ := report_eq packets
          (List.suffix_append_self_iff.mpr hI.buffer) hmsg
        rw [← getLast?_found_vin] at hvin
        exact List.ne_nil_of_mem (List.mem_of_getLast? hvin)
      · exact hshown
    obtain ⟨p, hp, hvalues⟩ := hshown
    exact ⟨p, hp, (gives_iff hI.buffer hmsg p).mpr hvalues⟩
  · rw [readAndReport_of_not_reports hreports]
    exact ⟨List.suffix_append_self_iff.mpr hI.buffer, hI.genuine.received_append⟩

/-- One that does not posts what the line never said. -/
theorem not_genuine_step (hI : Inv shutdown_threshold packets s)
    (hP : ¬ ShowsComplete packets s chunk)
    (hs : s.step shutdown_threshold packets chunk = some s') :
    ¬ Genuine shutdown_threshold packets s' := by
  obtain rfl := step_eq_some hs
  obtain ⟨hreports, hvalues⟩ := Classical.not_imp.mp hP
  obtain ⟨msg, hmsg, heq⟩ := readAndReport_of_reports hreports shutdown_threshold
  rw [heq]
  intro hgenuine
  obtain ⟨p, hp, hgives⟩ := hgenuine msg (List.mem_append_right _ List.mem_cons_self)
  obtain ⟨hvin, hlevel⟩ := (gives_iff hI.buffer hmsg p).mp hgives
  exact hvalues (Or.inr ⟨p, hp, hvin, hlevel⟩)

end Runs

/-- Exactly the runs whose reports show a complete packet post only reports of complete packets. -/
theorem throughout_genuine_iff (shutdown_threshold : ℤ) (packets : List Packet)
    (chunks : List (List Char)) :
    Throughout (Line.step shutdown_threshold packets) (Genuine shutdown_threshold packets) .initial
        chunks ↔
      Along (Line.step shutdown_threshold packets) (ShowsComplete packets) .initial chunks := by
  apply throughout_iff_along (Inv shutdown_threshold packets)
  · exact fun s hI => hI.genuine
  · exact fun s chunk s' hI hP hs => hI.step hP hs
  · exact fun s chunk s' hI hP hs => not_genuine_step hI hP hs
  · exact ⟨List.nil_suffix, fun msg hmsg => absurd hmsg List.not_mem_nil⟩

/-- A packet of a full battery. -/
def fullPacket : Packet where
  bytes := "$ SmartUPS V3.2P,Vin GOOD,BATCAP 100,Vout 5250 $".toList
  plugged_in := true
  level := 100
  begins := by decide +kernel
  ends := by decide +kernel
  version_once := by decide +kernel
  vin_once := by decide +kernel
  batcap_once := by decide +kernel
  batcap_field := ⟨"$ SmartUPS V3.2P,Vin GOOD,".toList, [' '], ',', "Vout 5250 $".toList,
    by decide, List.forall_mem_singleton.mpr (by decide), by decide +kernel⟩
  level_le := le_rfl

/-- Two packets of a full battery, and a third one up to the first digit of its level. -/
def cutInLevel : List Char :=
  fullPacket.bytes ++ fullPacket.bytes ++ "$ SmartUPS V3.2P,Vin GOOD,BATCAP 1".toList

/-- The battery is full; a level of 1 is posted, which asks for the shutdown. -/
theorem posted_cutInLevel :
    ((Line.step 10 [fullPacket, fullPacket, fullPacket] .initial cutInLevel).map
      fun s => s.bms.posted) = some [⟨1, true, true⟩] := by
  decide +kernel

theorem not_genuine_cutInLevel :
    ¬ ∀ (shutdown_threshold : ℤ) (packets : List Packet) (chunks : List (List Char)),
      Throughout (Line.step shutdown_threshold packets)
        (Genuine shutdown_threshold packets) .initial
        chunks := by
  intro h
  have hthrough := h 10 [fullPacket, fullPacket, fullPacket] [cutInLevel]
  obtain ⟨s, hs, hposted⟩ := Option.map_eq_some_iff.mp posted_cutInLevel
  obtain ⟨p, hp, hgives⟩ := (hthrough.2 s hs).first ⟨1, true, true⟩ (hposted ▸ List.mem_cons_self)
  have hfull : p = fullPacket := by simpa using (completed_isPrefix _ _).subset hp
  rw [hfull] at hgives
  -- The packet says 100.
  have hlevel : (1 : ℕ) = 100 := congrArg BmsMessage.battery_level hgives
  cases hlevel

end AugmentedNormalcy.Bms
