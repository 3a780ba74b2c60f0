import AugmentedNormalcy.Foundation.Double

/-!
# JSON values

The values of the vendored `json.hpp`, and the two accesses that can throw: `at` of a key, and the
conversion of a number to an `int`. The conversion is a `static_cast`: it takes the low 32 bits of
an integer and the integer part of a double, silently. The language does not say what it makes of a
double whose integer part is no `int`; that is the parameter `convert`.

`IsInteger` says which integer a number is. The conversion gets the `int`s right
(`getInt_of_isInteger`), and takes other numbers for them, too.
-/

inductive Json where
  | null
  | boolean (b : Bool)
  | number_integer (n : Int64)
  | number_unsigned (n : UInt64)
  | number_float (d : Double)
  | string (s : String)
  | array (elements : List Json)
  | object (members : List (String × Json))
  | binary (bytes : List UInt8)
  | discarded

/-- The exceptions of the library, with their numbers. -/
inductive JsonException where
  | type_error (id : ℕ) (what : String)
  | out_of_range (id : ℕ) (what : String)
deriving DecidableEq, Repr

/-- A computation with two parts returns when both do. -/
theorem bind_eq_ok_iff {ε α β : Type} {x : Except ε α} {f : α → Except ε β} {b : β} :
    (x >>= f) = .ok b ↔ ∃ a, x = .ok a ∧ f a = .ok b := by
  cases x with
  | error e =>
    constructor
    · intro h
      cases h
    · rintro ⟨_, ⟨⟩, _⟩
  | ok a =>
    constructor
    · intro h
      exact ⟨a, rfl, h⟩
    · rintro ⟨_, ⟨⟩, h⟩
      exact h

namespace Json

/-- `type_name`. -/
def typeName : Json → String
  | null => "null"
  | object _ => "object"
  | array _ => "array"
  | string _ => "string"
  | boolean _ => "boolean"
  | binary _ => "binary"
  | discarded => "discarded"
  | number_integer _ | number_unsigned _ | number_float _ => "number"

/-- `at` of a key. -/
def atKey (j : Json) (key : String) : Except JsonException Json :=
  match j with
  | object members =>
    match members.lookup key with
    | some value => .ok value
    | none => .error (.out_of_range 403
        ("[json.exception.out_of_range.403] key '" ++ key ++ "' not found"))
  | _ => .error (.type_error 304
      ("[json.exception.type_error.304] cannot use at() with " ++ j.typeName))

/-- `get` of a type whose numbers are `int`s. -/
def getInt (convert : Double → ℤ) : Json → Except JsonException ℤ
  | number_unsigned n => .ok ((n.toNat : ℤ).bmod (2 ^ 32))
  | number_integer n => .ok (n.toInt.bmod (2 ^ 32))
  | number_float d => .ok (d.toInt?.getD (convert d))
  | j => .error (.type_error 302
      ("[json.exception.type_error.302] type must be number, but is " ++ j.typeName))

/-- The object has the value under the key. -/
def HasMember (j : Json) (key : String) (value : Json) : Prop :=
  ∃ members, j = object members ∧ members.lookup key = some value

/-- The number is the integer `n`, and is stored as one: `is_number_integer`. -/
def IsNumberInteger (n : ℤ) : Json → Prop
  | number_integer m => m.toInt = n
  | number_unsigned m => (m.toNat : ℤ) = n
  | _ => False

/-- The number is the integer `n`, also when it is stored as a double. -/
def IsInteger (n : ℤ) : Json → Prop
  | number_integer m => m.toInt = n
  | number_unsigned m => (m.toNat : ℤ) = n
  | number_float d => d.value? = some n
  | _ => False

theorem atKey_eq_ok_iff {j value : Json} {key : String} :
    j.atKey key = .ok value ↔ j.HasMember key value := by
  unfold atKey HasMember
  cases j with
  | object members =>
    cases h : members.lookup key with
    | none => simp [h]
    | some value' => simp [h]
  | _ => simp

theorem HasMember.unique {j value value' : Json} {key : String} (h : j.HasMember key value)
    (h' : j.HasMember key value') : value = value' := by
  have heq := (atKey_eq_ok_iff.mpr h).symm.trans (atKey_eq_ok_iff.mpr h')
  exact Except.ok.inj heq

theorem isInteger_iff {n : ℤ} {j : Json} :
    j.IsInteger n ↔ j.IsNumberInteger n ∨ ∃ d, j = number_float d ∧ d.value? = some (n : ℚ) := by
  cases j <;> simp [IsInteger, IsNumberInteger]

/-- The low 32 bits of an integer, as an `int` that is not negative. -/
theorem bmod_eq_iff {m n : ℤ} (hn : 0 ≤ n) (hlt : n < 2 ^ 31) :
    m.bmod (2 ^ 32) = n ↔ m % 2 ^ 32 = n := by
  rw [Int.bmod_def]
  norm_num
  split_ifs <;> omega

variable {convert : Double → ℤ} {n : ℤ}

theorem getInt_number_integer_eq_iff {m : Int64} (hn : 0 ≤ n) (hlt : n < 2 ^ 31) :
    (number_integer m).getInt convert = .ok n ↔ m.toInt % 2 ^ 32 = n := by
  rw [getInt, Except.ok.injEq, bmod_eq_iff hn hlt]

theorem getInt_number_unsigned_eq_iff {m : UInt64} (hn : 0 ≤ n) (hlt : n < 2 ^ 31) :
    (number_unsigned m).getInt convert = .ok n ↔ (m.toNat : ℤ) % 2 ^ 32 = n := by
  rw [getInt, Except.ok.injEq, bmod_eq_iff hn hlt]

theorem getInt_number_float_eq_iff {d : Double} :
    (number_float d).getInt convert = .ok n ↔
      (∃ q, d.value? = some q ∧ (-2 ^ 31 - 1 < q ∧ q < 2 ^ 31) ∧ Double.truncate q = n) ∨
        ¬ d.IsRepresentable ∧ convert d = n := by
  rw [getInt, Except.ok.injEq, ← Double.toInt?_eq_none_iff, ← Double.toInt?_eq_some_iff]
  cases d.toInt? with
  | none => simp
  | some m => simp

/-- The conversion is right for the `int`s that are not negative. -/
theorem getInt_of_isInteger {j : Json} (h : j.IsInteger n) (hn : 0 ≤ n) (hlt : n < 2 ^ 31) :
    j.getInt convert = .ok n := by
  cases j with
  | number_integer m =>
    have heq : m.toInt = n := h
    rw [getInt_number_integer_eq_iff hn hlt, heq]
    exact Int.emod_eq_of_lt hn (by omega)
  | number_unsigned m =>
    have heq : (m.toNat : ℤ) = n := h
    rw [getInt_number_unsigned_eq_iff hn hlt, heq]
    exact Int.emod_eq_of_lt hn (by omega)
  | number_float d =>
    have hn' : (0 : ℚ) ≤ n := Int.cast_nonneg hn
    have hlt' : (n : ℚ) < 2 ^ 31 := by exact_mod_cast hlt
    refine getInt_number_float_eq_iff.mpr (.inl ⟨n, h, ⟨by linarith, hlt'⟩, ?_⟩)
    rw [Double.truncate_of_nonneg hn', Int.floor_intCast]
  | _ => cases h

end Json
