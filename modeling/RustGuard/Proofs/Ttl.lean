/-
The arithmetic of a ttl.

`now + t * 1_000_000_000` is computed over `u64` from a number a client
sent, and nothing looks at the number first. As long as the sum fits,
everything one would ask of it holds: it is not before `now`, not the
zero that means "for good", and a longer ttl ends later. When it does
not fit, a debug build panics in the task that serves all requests, and
a release build wraps to some other instant: `u64::MAX` seconds, which
is how one spells "forever", is a ban that was over a second ago.

So the one condition is that the sum fits (`ttl_safe_iff`), and it says
how far a ttl may go: 2^64 ns are 584 years, of which a good fifty are
used up.
-/
import RustGuard.Proofs.Clock

namespace RustGuard

open Lib

-- ============================================================ the sum

/-- The sum, over the numbers it is about. -/
def exactEnd (now t : UInt64) : Nat := now.toNat + t.toNat * 1000000000

private theorem toNat_nanos : (1000000000 : UInt64).toNat = 1000000000 := rfl

/-- A sum that fits is computed as it is. -/
theorem toNat_endTime_of_fits {now t : UInt64}
    (h : exactEnd now t < 2 ^ 64) :
    (endTime now (some t)).toNat = exactEnd now t := by
  rw [toNat_endTime_some]
  exact Nat.mod_eq_of_lt h

/-- A longer ttl has the larger sum. -/
theorem exactEnd_mono (now : UInt64) {t1 t2 : UInt64} (h : t1 ≤ t2) :
    exactEnd now t1 ≤ exactEnd now t2 := by
  unfold exactEnd
  exact Nat.add_le_add_left
    (Nat.mul_le_mul_right _ (UInt64.le_iff_toNat_le.mp h)) _

/-- What a debug build computes: the product fits when the sum does. -/
theorem debugEndTime_some (now t : UInt64) :
    debugEndTime now (some t)
      = if exactEnd now t < 2 ^ 64 then some (endTime now (some t))
        else none := by
  rw [debugEndTime, exactEnd, checkedMul, toNat_nanos]
  by_cases hmul : t.toNat * 1000000000 < 2 ^ 64
  · have hns : (t * 1000000000).toNat = t.toNat * 1000000000 := by
      rw [UInt64.toNat_mul, toNat_nanos, Nat.mod_eq_of_lt hmul]
    rw [if_pos hmul, Option.bind_eq_bind, Option.bind_some, checkedAdd, hns]
    unfold endTime
    rw [Option.map_some, Option.getD_some]
  · have hadd : ¬ now.toNat + t.toNat * 1000000000 < 2 ^ 64 := by
      intro hadd
      exact hmul (Nat.lt_of_le_of_lt (Nat.le_add_left _ _) hadd)
    rw [if_neg hmul, if_neg hadd]
    rfl

-- ======================================================= what is asked

/-- What is asked of the end times of two ttls: neither overflows, in
either build, neither is before the reading or zero, and the longer ttl
does not end first. -/
structure TtlSafe (now t1 t2 : UInt64) : Prop where
  noPanic : ∀ t ∈ [t1, t2],
    debugEndTime now (some t) = some (endTime now (some t))
  noWrap : ∀ t ∈ [t1, t2], (endTime now (some t)).toNat = exactEnd now t
  notBefore : ∀ t ∈ [t1, t2], now ≤ endTime now (some t)
  notZero : ∀ t ∈ [t1, t2], endTime now (some t) ≠ 0
  monotone : endTime now (some t1) ≤ endTime now (some t2)

/-- Of two ttls asked for at an instant the clock can say, all of it
holds exactly when the sum of the longer one fits 64 bits. -/
theorem ttl_safe_iff {r : Nat} (hpos : 0 < r) (hr : r < 2 ^ 63)
    {t1 t2 : UInt64} (hle : t1 ≤ t2) :
    TtlSafe (getBootTimeNs (utcAt r)) t1 t2
      ↔ r + t2.toNat * 1000000000 < 2 ^ 64 := by
  have hnow : (getBootTimeNs (utcAt r)).toNat = r := by
    rw [toNat_getBootTimeNs_utcAt, if_pos hr]
  generalize getBootTimeNs (utcAt r) = now at hnow
  have hexact : ∀ t, exactEnd now t = r + t.toNat * 1000000000 := by
    intro t
    rw [exactEnd, hnow]
  constructor
  · intro hsafe
    have hsome := hsafe.noPanic t2 (by simp)
    rw [debugEndTime_some, Option.ite_none_right_eq_some] at hsome
    rw [← hexact]
    exact hsome.1
  · intro hfits
    -- the shorter of the two fits when the longer one does
    have hboth : ∀ t ∈ [t1, t2], exactEnd now t < 2 ^ 64 := by
      intro t ht
      have hlong : exactEnd now t2 < 2 ^ 64 := by
        rw [hexact]
        exact hfits
      rcases List.mem_cons.mp ht with heq | ht
      · rw [heq]
        exact Nat.lt_of_le_of_lt (exactEnd_mono now hle) hlong
      · rw [List.mem_singleton.mp ht]
        exact hlong
    have hvalue : ∀ t ∈ [t1, t2],
        (endTime now (some t)).toNat = exactEnd now t := by
      intro t ht
      exact toNat_endTime_of_fits (hboth t ht)
    refine ⟨?_, hvalue, ?_, ?_, ?_⟩
    · intro t ht
      rw [debugEndTime_some, if_pos (hboth t ht)]
    · intro t ht
      rw [UInt64.le_iff_toNat_le, hvalue t ht, exactEnd]
      exact Nat.le_add_right _ _
    · intro t ht hzero
      have hz := hvalue t ht
      rw [hzero, hexact, UInt64.toNat_zero] at hz
      omega
    · rw [UInt64.le_iff_toNat_le, hvalue t1 (by simp), hvalue t2 (by simp)]
      exact exactEnd_mono now hle

/-- A minute and an hour, in November 2023. -/
theorem ttl_safe_hour :
    TtlSafe (getBootTimeNs (utcAt 1700000000000000000)) 60 3600 :=
  (ttl_safe_iff (by decide) (by decide) (by decide)).mpr (by decide)

/-- The longest ttl there is: a debug build panics, a release build
stores an end one second ago, before that of a ttl of zero. -/
theorem longest_ttl_wraps :
    let now := getBootTimeNs (utcAt 1700000000000000000)
    let forever := UInt64.ofNat (2 ^ 64 - 1)
    debugEndTime now (some forever) = none
      ∧ endTime now (some forever) = now - 1000000000
      ∧ ¬ now ≤ endTime now (some forever)
      ∧ ¬ endTime now (some 0) ≤ endTime now (some forever) := by
  decide

end RustGuard
