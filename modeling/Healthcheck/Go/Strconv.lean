import Mathlib.Data.Nat.Digits
import Healthcheck.Go.Basic

/-!
# Strconv — decimal text of unsigned integers

`fmt`'s `%d` of an unsigned integer and `strconv.ParseUint(s, 10, bitSize)`, with the round trip
`parseUint (decimal n) = n` for every `n` that fits in `bitSize` bits.
-/

namespace Healthcheck

/-! ## 1. Bytes and digits -/

@[simp] theorem UInt8.toNat_ofNat_eq_mod (n : Nat) : (UInt8.ofNat n).toNat = n % 256 := rfl

/-- The ASCII byte of the digit `d < 16` in Go's table `"0123456789abcdef"`. -/
def digitByte (d : Nat) : UInt8 :=
  if d < 10 then UInt8.ofNat (48 + d) else UInt8.ofNat (87 + d)

/-- `'0' <= c && c <= '9'`. -/
def isDigit (c : UInt8) : Bool := 48 ≤ c.toNat && c.toNat ≤ 57

theorem digitByte_toNat {d : Nat} (hd : d < 16) :
    (digitByte d).toNat = if d < 10 then 48 + d else 87 + d := by
  unfold digitByte; split <;> simp <;> omega

theorem isDigit_digitByte {d : Nat} (hd : d < 10) : isDigit (digitByte d) = true := by
  simp [isDigit, digitByte_toNat (by omega : d < 16), hd]; omega

theorem digitByte_sub {d : Nat} (hd : d < 10) : (digitByte d).toNat - 48 = d := by
  simp [digitByte_toNat (by omega : d < 16), hd]

/-! ## 2. `%d` and `ParseUint` -/

namespace Fmt

/-- `fmt`'s `%d` of an unsigned integer: its decimal digits, most significant first. -/
def decimal (n : Nat) : GoString :=
  if n = 0 then [digitByte 0] else (Nat.digits 10 n).reverse.map digitByte

end Fmt

namespace Strconv

/-- The `Err` of the `*NumError` that `strconv.ParseUint` returns. -/
inductive NumError
  /-- `strconv.ErrSyntax`, "invalid syntax" -/
  | errSyntax
  /-- `strconv.ErrRange`, "value out of range" -/
  | errRange
  deriving DecidableEq, Repr

/-- The digit loop of `strconv.ParseUint` in base 10; `n` is the value read so far and `maxVal`
is `1<<bitSize - 1`.  Go's `uint64` overflow tests (`n >= cutoff`, `n1 < n`) reject only values
above `2^64 - 1 ≥ maxVal`, so on `Nat` the comparison `n1 > maxVal` decides the same. -/
def parseUintLoop (maxVal : Nat) : GoString → Nat → Except NumError Nat
  | [], n => .ok n
  | c :: cs, n =>
    if isDigit c then
      let n1 := n * 10 + (c.toNat - 48)
      if n1 > maxVal then .error .errRange else parseUintLoop maxVal cs n1
    else .error .errSyntax

/-- `strconv.ParseUint(s, 10, bitSize)`. -/
def parseUint (s : GoString) (bitSize : Nat) : Except NumError Nat :=
  if s = [] then .error .errSyntax else parseUintLoop (2 ^ bitSize - 1) s 0

end Strconv

/-! ## 3. The round trip -/

/-- The value of big-endian digits in base `b`, read left to right from the value `a`. -/
def digitsValue (b a : Nat) (ds : List Nat) : Nat := ds.foldl (fun n d => n * b + d) a

@[simp] theorem digitsValue_nil (b a : Nat) : digitsValue b a [] = a := rfl

@[simp] theorem digitsValue_cons (b a d : Nat) (ds : List Nat) :
    digitsValue b a (d :: ds) = digitsValue b (a * b + d) ds := rfl

theorem le_digitsValue (b a : Nat) (hb : 0 < b) (ds : List Nat) : a ≤ digitsValue b a ds := by
  induction ds generalizing a with
  | nil => exact le_refl a
  | cons d ds ih =>
    exact le_trans (le_trans (Nat.le_mul_of_pos_right a hb) (Nat.le_add_right _ d)) (ih _)

private theorem parseUintLoop_digits (maxVal : Nat) (ds : List Nat) (a : Nat)
    (hds : ∀ d ∈ ds, d < 10) (hmax : digitsValue 10 a ds ≤ maxVal) :
    Strconv.parseUintLoop maxVal (ds.map digitByte) a = .ok (digitsValue 10 a ds) := by
  induction ds generalizing a with
  | nil => rfl
  | cons d ds ih =>
    have hd : d < 10 := hds d (List.mem_cons_self d ds)
    have hle := le_digitsValue 10 (a * 10 + d) (by norm_num) ds
    simp only [List.map_cons, Strconv.parseUintLoop, isDigit_digitByte hd, digitByte_sub hd,
      if_true]
    rw [digitsValue_cons] at hmax
    rw [if_neg (by omega)]
    exact ih _ (fun d' h => hds d' (List.mem_cons_of_mem d h)) hmax

private theorem digitsValue_reverse_digits (n : Nat) :
    digitsValue 10 0 (Nat.digits 10 n).reverse = n := by
  have h : ∀ ds : List Nat, ds.foldr (fun d n => n * 10 + d) 0 = Nat.ofDigits 10 ds := by
    intro ds
    induction ds with
    | nil => rfl
    | cons d ds ih => simp only [List.foldr_cons, ih, Nat.ofDigits_cons]; ring
  rw [digitsValue, List.foldl_reverse, h, Nat.ofDigits_digits]

/-- `ParseUint` reads back the `%d` text of every value that fits in `bitSize` bits. -/
theorem parseUint_decimal (n bitSize : Nat) (h : n < 2 ^ bitSize) :
    Strconv.parseUint (Fmt.decimal n) bitSize = .ok n := by
  unfold Fmt.decimal Strconv.parseUint
  split
  · subst n
    simp [Strconv.parseUintLoop, isDigit_digitByte, digitByte_sub]
  · rename_i hn
    have hne : (Nat.digits 10 n).reverse.map digitByte ≠ [] := by
      simpa [Nat.digits_ne_nil_iff_ne_zero] using hn
    rw [if_neg hne, parseUintLoop_digits _ _ _
      (fun d hd => Nat.digits_lt_base (by norm_num) (List.mem_reverse.mp hd))
      (by rw [digitsValue_reverse_digits]; omega), digitsValue_reverse_digits]

theorem parseUintLoop_le {maxVal : Nat} {s : GoString} {n m : Nat} (hn : n ≤ maxVal)
    (h : Strconv.parseUintLoop maxVal s n = .ok m) : m ≤ maxVal := by
  induction s generalizing n with
  | nil => cases h; exact hn
  | cons c s ih =>
    simp only [Strconv.parseUintLoop] at h
    split_ifs at h with hd hgt
    exact ih (not_lt.mp hgt) h

/-- `ParseUint` returns only values that fit in `bitSize` bits. -/
theorem parseUint_lt {s : GoString} {bitSize n : Nat} (h : Strconv.parseUint s bitSize = .ok n) :
    n < 2 ^ bitSize := by
  unfold Strconv.parseUint at h
  split_ifs at h
  have := parseUintLoop_le (Nat.zero_le _) h
  have := Nat.two_pow_pos bitSize
  omega

/-- `%d` text is made of decimal digits only. -/
theorem decimal_isDigit (n : Nat) : ∀ c ∈ Fmt.decimal n, isDigit c = true := by
  unfold Fmt.decimal
  split
  · simp [isDigit_digitByte]
  · simp only [List.mem_map, List.mem_reverse]
    rintro c ⟨d, hd, rfl⟩
    exact isDigit_digitByte (Nat.digits_lt_base (by norm_num) hd)

end Healthcheck
