import Mathlib.Algebra.Order.Field.Basic
import Mathlib.Algebra.Order.Field.Rat
import Mathlib.Tactic.NormNum.Basic
import Mathlib.Tactic.NormNum.Pow
import Mathlib.Tactic.Linarith
import CrioDf.Json

/-!
# CrioDf.Format

`format_size(bytes_value)`, the human-readable sizes of the report:

```
if bytes_value == 0:
    return "0B"
units = ['B', 'KB', 'MB', 'GB', 'TB']
unit_index = 0
size = float(bytes_value)
while size >= 1000 and unit_index < len(units) - 1:
    size /= 1000
    unit_index += 1
if unit_index == 0:  # Bytes
    return f"{int(size)}{units[unit_index]}"
elif size >= 100:
    return f"{size:.0f}{units[unit_index]}"
elif size >= 10:
    return f"{size:.1f}{units[unit_index]}"
else:
    return f"{size:.2f}{units[unit_index]}"
```

`size = float(bytes_value)` is modelled exactly (`floatOfInt`): the magnitude is rounded to
53 significant bits, ties to even, and `OverflowError` is raised when the rounded value
reaches `2 ^ 1024`. An integer rounded so is still a whole number, so the converted value is
kept as the integer it is, and `int(size)` in bytes prints that integer. The divisions by 1000 are
modelled as exact rational ones. For every integer the loop's and the branches' comparisons
come out the same: the thresholds are at most `10 ^ 14`, far inside the range where the
quotients of an integer by powers of 1000 are rounded by less than their distance to a
threshold, and above `2 ^ 53` every comparison is far from its threshold. What is printed is
modelled up to the digits: the value, the number of decimals, and the unit; the rounding of
`:.Nf` is not.

## Proof shape

`roundToDouble_lt_iff` places the overflow bound: the bits cut off number at most 970 below
`2 ^ 1023`, exactly 971 in the top binade, where the bound is decided by the rounding of the
last bit, and at least 972 above it. Everything after the conversion is `scaledText_spec`,
from the loop's invariant `scaleSize_spec`.

## Main results

* `scaleSize_spec`: the loop divides down to the largest unit up to TB that the value
  reaches;
* `roundToDouble_lt_iff`, `floatOfInt_eq_error_iff`: `float(n)` raises exactly when
  `|n| ≥ 2 ^ 1024 - 2 ^ 970`, and is exact below `2 ^ 53`;
* `formatSize_eq`: `format_size` raises exactly beyond the double range; otherwise, below
  1000 the converted count is printed as it is, and from 1000 bytes on the value shown before
  rounding has three significant digits, except in TB.
-/

namespace CrioDf

/-- `units`. -/
def sizeUnits : List String := ["B", "KB", "MB", "GB", "TB"]

/-- The `while` loop of `format_size`, from `(size, unit_index)`. `fuel` only bounds the
recursion: `len(units) - 1` passes are all the loop can make. -/
def scaleSize : Nat → ℚ → Nat → ℚ × Nat
  | 0, size, unitIndex => (size, unitIndex)
  | fuel + 1, size, unitIndex =>
    if size ≥ 1000 ∧ unitIndex < sizeUnits.length - 1 then
      scaleSize fuel (size / 1000) (unitIndex + 1)
    else (size, unitIndex)

/-- What `format_size` prints: `"0B"`, a whole number of bytes, or a value with a number of
decimals and a unit. -/
inductive SizeText
  | zero
  | bytes (n : Int)
  | scaled (size : ℚ) (decimals : Nat) (unit : String)
  deriving DecidableEq

/-! ### `float(bytes_value)` -/

/-- Python's `float` of a natural number: rounded to the nearest number with 53 significant
bits, ties to the even significand. `shift` is the number of low bits cut off, `q` the
significand kept and `r` the bits cut off. -/
def roundToDouble (n : Nat) : Nat :=
  let shift := n.log2 - 52
  let q := n / 2 ^ shift
  let r := n % 2 ^ shift
  (if 2 ^ shift < 2 * r ∨ (2 * r = 2 ^ shift ∧ q % 2 = 1) then q + 1 else q) * 2 ^ shift

/-- `float(n)` of an `int`: the rounded magnitude with the sign of `n`, or `OverflowError`
when the rounded magnitude reaches `2 ^ 1024`, beyond the largest double. Every double of
that size is a whole number, so the value is returned as the integer it is. -/
def floatOfInt (n : Int) : Except PyError Int :=
  if 2 ^ 1024 ≤ roundToDouble n.natAbs then .error .overflowError
  else .ok (if n < 0 then -(roundToDouble n.natAbs : Int) else roundToDouble n.natAbs)

/-! ### `format_size` -/

/-- `format_size(bytes_value)` from `size = float(bytes_value)` on, given the value `float`
returned: the loop, then the branches on the unit and on the size. In bytes it prints
`int(size)`, the converted value itself. -/
def scaledText (value : Int) : SizeText :=
  let (size, unitIndex) := scaleSize (sizeUnits.length - 1) value 0
  if unitIndex = 0 then .bytes value
  else if size ≥ 100 then .scaled size 0 (sizeUnits.getD unitIndex "")
  else if size ≥ 10 then .scaled size 1 (sizeUnits.getD unitIndex "")
  else .scaled size 2 (sizeUnits.getD unitIndex "")

/-- `format_size(bytes_value)`: `"0B"`, or the text of `float(bytes_value)`, which raises
`OverflowError` beyond the double range. -/
def formatSize (bytesValue : Int) : Except PyError SizeText :=
  if bytesValue = 0 then .ok .zero else scaledText <$> floatOfInt bytesValue

/-- The loop from `(size, i)`, with the units left counted by `fuel`, stops at a unit `j`
with the size divided by `1000` once per step; it stops below 1000 unless it reached TB,
and a step it took started from at least 1000. -/
theorem scaleSize_spec (fuel : Nat) (size : ℚ) (i : Nat) (hfuel : i + fuel = 4) :
    i ≤ (scaleSize fuel size i).2 ∧ (scaleSize fuel size i).2 ≤ 4 ∧
      (scaleSize fuel size i).1 * 1000 ^ ((scaleSize fuel size i).2 - i) = size ∧
      ((scaleSize fuel size i).2 < 4 → (scaleSize fuel size i).1 < 1000) ∧
      (i < (scaleSize fuel size i).2 → 1 ≤ (scaleSize fuel size i).1) := by
  induction fuel generalizing size i with
  | zero => simp [scaleSize]; omega
  | succ fuel ih =>
    by_cases hstep : size ≥ 1000 ∧ i < sizeUnits.length - 1
    · obtain ⟨hi, hj4, hmul, hlt, hge⟩ := ih (size / 1000) (i + 1) (by omega)
      rw [scaleSize, if_pos hstep]
      set j := (scaleSize fuel (size / 1000) (i + 1)).2
      set s := (scaleSize fuel (size / 1000) (i + 1)).1
      refine ⟨by omega, hj4, ?_, hlt, fun _ => ?_⟩
      · rw [show j - i = (j - (i + 1)) + 1 by omega, pow_succ, ← mul_assoc, hmul,
          div_mul_cancel₀ size (by norm_num)]
      · rcases Nat.lt_or_ge (i + 1) j with h | h
        · exact hge h
        · have hj : j = i + 1 := by omega
          rw [hj, Nat.sub_self, pow_zero, mul_one] at hmul
          rw [hmul, le_div_iff₀ (by norm_num), one_mul]
          exact hstep.1
    · rw [scaleSize, if_neg hstep]
      simp only [le_refl, Nat.sub_self, pow_zero, mul_one, lt_irrefl, IsEmpty.forall_iff,
        and_true, true_and]
      refine ⟨by omega, fun hi => ?_⟩
      by_contra hge
      exact hstep ⟨not_lt.mp hge, by simp [sizeUnits]; omega⟩

theorem sizeUnits_length : sizeUnits.length - 1 = 4 := rfl

/-! ### The conversion -/

/-- Below `2 ^ 53` nothing is cut off: `float` is exact. -/
theorem roundToDouble_of_lt {n : Nat} (h : n < 2 ^ 53) : roundToDouble n = n := by
  have hshift : n.log2 - 52 = 0 := by
    rcases Nat.eq_zero_or_pos n with rfl | hn
    · simp [Nat.log2_zero]
    · have := (Nat.log2_lt hn.ne').2 h
      omega
  simp [roundToDouble, hshift, Nat.mod_one]

/-- The rounded magnitude stays below `2 ^ 1024` exactly when the magnitude is below the
largest double `(2 ^ 53 - 1) * 2 ^ 971` plus half its last place. The cut-off `shift` is at
most 970 below that range, 971 at its top and at least 972 above it. -/
theorem roundToDouble_lt_iff (n : Nat) : roundToDouble n < 2 ^ 1024 ↔ n < 2 ^ 1024 - 2 ^ 970 := by
  rcases Nat.lt_or_ge n (2 ^ 53) with hn | hn
  · rw [roundToDouble_of_lt hn]
    omega
  have hn0 : n ≠ 0 := by omega
  obtain ⟨s, hs⟩ : ∃ s, n.log2 = s + 52 := ⟨n.log2 - 52, by have := (Nat.le_log2 hn0).2 hn; omega⟩
  have hlo : 2 ^ 52 * 2 ^ s ≤ n := by
    rw [← pow_add, add_comm, ← hs]
    exact Nat.log2_self_le hn0
  have hhi : n < 2 ^ 53 * 2 ^ s := by
    rw [← pow_add, show 53 + s = n.log2 + 1 by omega]
    exact Nat.lt_log2_self
  have hqlo : 2 ^ 52 ≤ n / 2 ^ s := (Nat.le_div_iff_mul_le (by positivity)).2 hlo
  have hqhi : n / 2 ^ s < 2 ^ 53 := (Nat.div_lt_iff_lt_mul (by positivity)).2 hhi
  have hqr := Nat.div_add_mod n (2 ^ s)
  have hr := Nat.mod_lt n (show 0 < 2 ^ s by positivity)
  simp only [roundToDouble, hs, Nat.add_sub_cancel]
  generalize n / 2 ^ s = q at *
  generalize n % 2 ^ s = r at *
  rcases lt_trichotomy s 971 with hs' | rfl | hs'
  · have hq' : (if 2 ^ s < 2 * r ∨ (2 * r = 2 ^ s ∧ q % 2 = 1) then q + 1 else q) ≤ 2 ^ 53 := by
      split_ifs <;> omega
    have hpow : 2 ^ 53 * 2 ^ s ≤ 2 ^ 53 * 2 ^ 970 := by gcongr <;> omega
    have := Nat.mul_le_mul_right (2 ^ s) hq'
    omega
  · split <;> omega
  · have hq' : 2 ^ 52 ≤ (if 2 ^ s < 2 * r ∨ (2 * r = 2 ^ s ∧ q % 2 = 1) then q + 1 else q) := by
      split_ifs <;> omega
    have hpow : 2 ^ 52 * 2 ^ 972 ≤ 2 ^ 52 * 2 ^ s := by gcongr <;> omega
    have := Nat.mul_le_mul_right (2 ^ s) hq'
    omega

/-- `float(n)` is exact below `2 ^ 53`. -/
theorem floatOfInt_of_natAbs_lt {n : Int} (h : n.natAbs < 2 ^ 53) : floatOfInt n = .ok n := by
  have hlt : roundToDouble n.natAbs < 2 ^ 1024 := by
    rw [roundToDouble_of_lt h]
    omega
  rw [floatOfInt, if_neg (not_le.mpr hlt), roundToDouble_of_lt h]
  congr 1
  split_ifs <;> omega

/-- `float(n)` returns a value exactly when `|n|` is below the overflow bound, and otherwise
raises `OverflowError`. -/
theorem floatOfInt_eq_error_iff (n : Int) (e : PyError) :
    floatOfInt n = .error e ↔ e = .overflowError ∧ 2 ^ 1024 - 2 ^ 970 ≤ n.natAbs := by
  have hlt := roundToDouble_lt_iff n.natAbs
  rw [floatOfInt]
  split_ifs with h
  · exact ⟨fun he => ⟨(Except.error.inj he).symm, by omega⟩, fun ⟨he, _⟩ => he ▸ rfl⟩
  · exact iff_of_false (by simp) fun ⟨_, h'⟩ => by omega

theorem formatSize_of_ne_zero {b : Int} (h0 : b ≠ 0) :
    formatSize b = scaledText <$> floatOfInt b :=
  if_neg h0

/-- `format_size` raises only `OverflowError`, and exactly beyond the double range. -/
theorem formatSize_eq_error_iff (b : Int) (e : PyError) :
    formatSize b = .error e ↔ e = .overflowError ∧ 2 ^ 1024 - 2 ^ 970 ≤ b.natAbs := by
  rcases eq_or_ne b 0 with rfl | h0
  · exact iff_of_false (fun he => Except.noConfusion he) fun ⟨_, h⟩ => by
      rw [Int.natAbs_zero] at h
      omega
  · rw [formatSize_of_ne_zero h0, ← floatOfInt_eq_error_iff]
    cases floatOfInt b <;>
      simp only [Functor.map, Except.map, Except.error.injEq, reduceCtorEq]

/-- From the converted value `v`: below 1000 (a negative value included) it is printed as it
is; from 1000 on the loop divides down to the largest unit up to TB that `v` reaches, and the
branches pick the decimals that give the value three significant digits before rounding:
with `d` decimals the value lies in `[10 ^ (2 - d), 10 ^ (3 - d))`, the upper bound failing
only in TB. -/
theorem scaledText_spec (v : Int) :
    (v < 1000 → scaledText v = .bytes v) ∧
    (1000 ≤ v → ∃ (size : ℚ) (decimals i : Nat),
      scaledText v = .scaled size decimals (sizeUnits.getD i "") ∧ 1 ≤ i ∧ i ≤ 4 ∧
      size * 1000 ^ i = v ∧ decimals ≤ 2 ∧ (10 : ℚ) ^ (2 - decimals) ≤ size ∧
      (i < 4 → size < 10 ^ (3 - decimals))) := by
  have hspec := scaleSize_spec 4 (v : ℚ) 0 rfl
  unfold scaledText
  rw [sizeUnits_length]
  rcases hp : scaleSize 4 (v : ℚ) 0 with ⟨s, j⟩
  rw [hp] at hspec
  obtain ⟨-, hj4, hmul, hlt, hge⟩ := hspec
  rw [Nat.sub_zero] at hmul
  have hj : j = 0 ↔ v < 1000 := by
    constructor
    · rintro rfl
      rw [pow_zero, mul_one] at hmul
      exact_mod_cast hmul ▸ hlt (by norm_num)
    · intro hv
      by_contra hj
      have h1000 : (1000 : ℚ) ≤ v :=
        calc (1000 : ℚ) ≤ 1000 ^ j := le_self_pow₀ (by norm_num) hj
          _ ≤ s * 1000 ^ j := le_mul_of_one_le_left (by positivity) (hge (Nat.pos_of_ne_zero hj))
          _ = v := hmul
      exact absurd (by exact_mod_cast h1000 : (1000 : Int) ≤ v) (by omega)
  refine ⟨fun hv => by simp [hj.mpr hv], fun hv => ?_⟩
  have hj0 : j ≠ 0 := fun h => absurd (hj.mp h) (by omega)
  have hs1 := hge (Nat.pos_of_ne_zero hj0)
  simp only [hj0, if_false]
  split_ifs with h100 h10
  · exact ⟨s, 0, j, rfl, by omega, hj4, hmul, by norm_num, by norm_num; exact h100,
      fun h => by norm_num; exact hlt h⟩
  · exact ⟨s, 1, j, rfl, by omega, hj4, hmul, by norm_num, by norm_num; exact h10,
      fun _ => by norm_num; exact lt_of_not_le h100⟩
  · exact ⟨s, 2, j, rfl, by omega, hj4, hmul, le_refl _, by norm_num; exact hs1,
      fun _ => by norm_num; exact lt_of_not_le h10⟩

/-- `format_size` of a non-zero count raises `OverflowError` exactly beyond the double range;
otherwise it prints the text of `v = float(b)`, which is `b` itself below `2 ^ 53`: below
1000 (a negative value included) `v` as it is; from 1000 on `v` divided down to the largest
unit up to TB that it reaches, with the decimals that give the value three significant
digits before rounding (with `d` decimals it lies in `[10 ^ (2 - d), 10 ^ (3 - d))`, the
upper bound failing only in TB). -/
theorem formatSize_eq (b : Int) (h0 : b ≠ 0) :
    (formatSize b = .error .overflowError ↔ 2 ^ 1024 - 2 ^ 970 ≤ b.natAbs) ∧
    ∀ v, floatOfInt b = .ok v → (b.natAbs < 2 ^ 53 → v = b) ∧
      (v < 1000 → formatSize b = .ok (.bytes v)) ∧
      (1000 ≤ v → ∃ (size : ℚ) (decimals i : Nat),
        formatSize b = .ok (.scaled size decimals (sizeUnits.getD i "")) ∧ 1 ≤ i ∧ i ≤ 4 ∧
        size * 1000 ^ i = v ∧ decimals ≤ 2 ∧ (10 : ℚ) ^ (2 - decimals) ≤ size ∧
        (i < 4 → size < 10 ^ (3 - decimals))) := by
  refine ⟨(formatSize_eq_error_iff b _).trans (and_iff_right rfl), fun v hv => ?_⟩
  have hfs : formatSize b = .ok (scaledText v) := by
    rw [formatSize_of_ne_zero h0, hv]
    rfl
  obtain ⟨hbytes, hscaled⟩ := scaledText_spec v
  refine ⟨fun hb => ?_, fun hv => hfs ▸ congrArg _ (hbytes hv), fun hv => ?_⟩
  · rw [floatOfInt_of_natAbs_lt hb] at hv
    exact (Except.ok.inj hv).symm
  · obtain ⟨size, decimals, i, htext, hrest⟩ := hscaled hv
    exact ⟨size, decimals, i, htext ▸ hfs, hrest⟩

/-- 1500 bytes print as `1.50KB`. -/
example : formatSize 1500 = .ok (.scaled (3 / 2) 2 "KB") := by
  rw [formatSize_of_ne_zero (by decide), floatOfInt_of_natAbs_lt (by decide)]
  norm_num [scaledText, scaleSize, sizeUnits, Functor.map, Except.map]

/-- `-(2 ^ 53 + 1)` bytes print as `-9007199254740992B`: `float` rounds the odd last bit to
the even neighbour. -/
example : formatSize (-(2 ^ 53 + 1)) = .ok (.bytes (-(2 ^ 53))) := by
  have hlog : Nat.log2 (2 ^ 53 + 1) = 53 :=
    le_antisymm (Nat.lt_succ_iff.1 ((Nat.log2_lt (by norm_num)).2 (by norm_num)))
      ((Nat.le_log2 (by norm_num)).2 (by norm_num))
  have hround : roundToDouble (2 ^ 53 + 1) = 2 ^ 53 := by
    rw [roundToDouble, hlog]
    norm_num
  have hfloat : floatOfInt (-(2 ^ 53 + 1)) = .ok (-(2 ^ 53)) := by
    rw [floatOfInt, show (-(2 ^ 53 + 1) : Int).natAbs = 2 ^ 53 + 1 from rfl, hround]
    norm_num
  rw [formatSize_of_ne_zero (by decide), hfloat]
  show Except.ok (scaledText _) = _
  norm_num [scaledText, scaleSize, sizeUnits]

/-- 1500 bytes are shown in a unit above bytes. -/
theorem formatSize_eq_kilobytes :
    (1500 : Int) ≠ 0 ∧ ∃ (size : ℚ) (decimals i : Nat),
      formatSize 1500 = .ok (.scaled size decimals (sizeUnits.getD i "")) ∧ 1 ≤ i ∧ i ≤ 4 ∧
      size * 1000 ^ i = 1500 ∧ decimals ≤ 2 ∧ (10 : ℚ) ^ (2 - decimals) ≤ size ∧
      (i < 4 → size < 10 ^ (3 - decimals)) :=
  ⟨by decide, ((formatSize_eq 1500 (by decide)).2 1500
    (floatOfInt_of_natAbs_lt (by decide))).2.2 (by decide)⟩

end CrioDf
