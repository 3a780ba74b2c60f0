import AugmentedNormalcy.Foundation.Scan

/-!
# The battery reports

`SerialBms` of `src/internal/infrastructure/bms/serial_bms.cpp` collects the bytes of a serial line
and posts what it reads in them. A byte is the character of its code. The two regular expressions
are patterns: their blanks are greedy, and giving some back never lets the group match, so a pattern
is read from left to right without backtracking. -/

namespace AugmentedNormalcy.Bms

open Scan

/-- What is posted to the streamer. -/
structure BmsMessage where
  battery_level : ℕ
  bms_is_plugged_in : Bool
  bms_wants_shutdown : Bool
deriving DecidableEq, Repr

/-- The text that a response must contain. -/
def version_clause : List Char := "SmartUPS V3.2P".toList

/-- What `\s` matches. -/
def isSpace (c : Char) : Bool :=
  c = ' ' || c = '\t' || c = '\n' || c = '\x0b' || c = '\x0c' || c = '\r'

/-- `Vin\s*(NG|GOOD)`; the value says whether the group is `GOOD`. -/
def vin_pattern : Pattern Char Bool :=
  after "Vin".toList
    (skipping isSpace (orElse (word "NG".toList false) (word "GOOD".toList true)))

/-- The value of a digit. -/
def digit (c : Char) : ℕ := c.toNat - '0'.toNat

/-- `[1-9]?[0-9]`, and what `stoi` makes of it. -/
def twoDigits : Pattern Char ℕ
  | [] => none
  | [a] => if a.isDigit then some (digit a, []) else none
  | a :: b :: rest =>
    if a.isDigit && a ≠ '0' && b.isDigit then some (10 * digit a + digit b, rest)
    else if a.isDigit then some (digit a, b :: rest)
    else none

/-- `BATCAP\s*(100|[1-9]?[0-9])`, with the number in the group. -/
def batcap_pattern : Pattern Char ℕ :=
  after "BATCAP".toList (skipping isSpace (orElse (word "100".toList 100) twoDigits))

/-- `tryParseResponse`, with the configured shutdown threshold. The loops over the iterators leave
the last match of each pattern. -/
def tryParseResponse (shutdown_threshold : ℤ) (input : List Char) : Option BmsMessage :=
  if input.count '$' < 2 then none
  else if ¬ version_clause <:+: input then none
  else
    match (iterate vin_pattern 0 input).getLast? with
    | none => none
    | some bms_is_plugged_in =>
      match (iterate batcap_pattern 0 input).getLast? with
      | none => none
      | some battery_level =>
        some
          { battery_level
            bms_is_plugged_in
            bms_wants_shutdown := decide ((battery_level : ℤ) ≤ shutdown_threshold) }

/-- The buffer, and every message that was posted. -/
structure SerialBms where
  bms_read_buffer : List Char
  posted : List BmsMessage
deriving DecidableEq

namespace SerialBms

/-- Nothing has been read. -/
def initial : SerialBms where
  bms_read_buffer := []
  posted := []

/-- One turn of the loop of `readAndReport`, with what `ReadBinary` returns. After a failure `run`
calls `readAndReport` again, and the buffer is still there. -/
def readAndReport (s : SerialBms) (shutdown_threshold : ℤ) (bms_tmp_buffer : List Char) :
    SerialBms :=
  if bms_tmp_buffer = [] then s
  else
    let bms_read_buffer := s.bms_read_buffer ++ bms_tmp_buffer
    if bms_read_buffer.length < 100 then { s with bms_read_buffer }
    else
      match tryParseResponse shutdown_threshold bms_read_buffer with
      | none => { s with bms_read_buffer }
      | some msg => { bms_read_buffer := [], posted := s.posted ++ [msg] }

end SerialBms

/-! ## The patterns -/

/-- The matches of `VIN` do not overlap. -/
theorem noOverlap_vin_pattern : NoOverlap vin_pattern :=
  noOverlap_after (by decide)
    (.skipping (by decide) (.orElse (.word (by decide)) (.word (by decide))))

/-- The pattern of `VIN` never looks past a `$`. -/
theorem isDelimiter_vin_pattern : IsDelimiter '$' vin_pattern :=
  .after (by decide) (.skipping (by decide) (.orElse (.word (by decide)) (.word (by decide))))

/-- A percentage has no `B` in it, with which the next match begins. -/
theorem avoids_twoDigits : Avoids 'B' twoDigits := by
  have hne : ∀ c : Char, c.isDigit = true → 'B' ≠ c := by
    rintro c hc rfl
    cases hc
  intro s b rest h
  match s with
  | [] => cases h
  | [a] =>
    obtain ⟨ha, ⟨⟩⟩ := Option.ite_none_right_eq_some.mp h
    exact ⟨[a], rfl, by simpa using hne a ha⟩
  | a :: c :: rest' =>
    simp only [twoDigits] at h
    split_ifs at h with htwo hone
    · cases h
      simp only [Bool.and_eq_true] at htwo
      exact ⟨[a, c], rfl, by simp [hne a htwo.1.1, hne c htwo.2]⟩
    · cases h
      exact ⟨[a], rfl, by simpa using hne a hone⟩

/-- The pattern of a percentage never looks past a `$`. -/
theorem isDelimiter_twoDigits : IsDelimiter '$' twoDigits := by
  intro s rest hs
  match s with
  | [] => cases hs
  | [a] =>
    obtain rfl : '$' = a := by simpa using hs
    cases rest with
    | nil => rfl
    | cons b rest => simp [twoDigits]
  | a :: b :: s =>
    simp only [List.cons_append, twoDigits]
    split_ifs <;> rfl

/-- The matches of `BATCAP` do not overlap. -/
theorem noOverlap_batcap_pattern : NoOverlap batcap_pattern :=
  noOverlap_after (by decide)
    (.skipping (by decide) (.orElse (.word (by decide)) avoids_twoDigits))

/-- The pattern of `BATCAP` never looks past a `$`. -/
theorem isDelimiter_batcap_pattern : IsDelimiter '$' batcap_pattern :=
  .after (by decide) (.skipping (by decide) (.orElse (.word (by decide)) isDelimiter_twoDigits))

end AugmentedNormalcy.Bms
