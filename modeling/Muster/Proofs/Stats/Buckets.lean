import Mathlib.Data.Nat.Dist
import Muster.Stats

/-!
Rounding into buckets. A bucket is the multiple of the band's step that is nearest to the response
time, and of two as near the larger one. Every step divides the edges where later bands start, so a
time is never rounded past an edge: buckets come in the order of the times, and a bucket rounds to
itself. Order and fixed points stay where the sum stops at the largest word; nearness does not.
-/

namespace Muster

/-! ### Multiples of a step -/

/-- No multiple of the step is nearer to `n`, and none that is as near is larger. -/
structure Nearest (step n multiple : Nat) : Prop where
  divides : step ∣ multiple
  closest : ∀ other, step ∣ other → multiple.dist n < other.dist n ∨
    (multiple.dist n = other.dist n ∧ other ≤ multiple)

/-- Half a step is added, up to a limit, and the sum is cut down to a multiple. -/
def rounded (limit step n : Nat) : Nat := min (n + step / 2) limit / step * step

section Rounding

variable {limit step n m edge : Nat}

theorem rounded_mono (le : n ≤ m) : rounded limit step n ≤ rounded limit step m := by
  apply Nat.mul_le_mul_right
  apply Nat.div_le_div_right
  omega

theorem rounded_le_limit : rounded limit step n ≤ limit :=
  (Nat.div_mul_le_self ..).trans (Nat.min_le_right ..)

theorem rounded_le_of_dvd (positive : 0 < step) (divides : step ∣ edge) (below : n ≤ edge) :
    rounded limit step n ≤ edge := by
  obtain ⟨k, rfl⟩ := divides
  have half : step / 2 < step := Nat.div_lt_self positive (by decide)
  have few : min (n + step / 2) limit / step < k + 1 := by
    apply (Nat.div_lt_iff_lt_mul positive).mpr
    rw [Nat.mul_comm, Nat.mul_add_one]
    omega
  rw [rounded, Nat.mul_comm step k]
  exact Nat.mul_le_mul_right step (Nat.le_of_lt_succ few)

theorem le_rounded_of_dvd (positive : 0 < step) (divides : step ∣ edge) (above : edge ≤ n)
    (fits : edge ≤ limit) : edge ≤ rounded limit step n := by
  obtain ⟨k, rfl⟩ := divides
  have many : k ≤ min (n + step / 2) limit / step := by
    apply (Nat.le_div_iff_mul_le positive).mpr
    rw [Nat.mul_comm]
    omega
  rw [rounded, Nat.mul_comm step k]
  exact Nat.mul_le_mul_right step many

/-- Below the limit the sum is cut by less than a step. -/
theorem rounded_bounds (positive : 0 < step) (fits : n + step / 2 ≤ limit) :
    rounded limit step n ≤ n + step / 2 ∧ n + step / 2 < rounded limit step n + step := by
  rw [rounded, Nat.min_eq_left fits]
  exact ⟨Nat.div_mul_le_self .., Nat.lt_div_mul_add positive⟩

theorem dist_rounded_le (positive : 0 < step) (fits : n + step / 2 ≤ limit) :
    (rounded limit step n).dist n ≤ step / 2 := by
  obtain ⟨above, below⟩ := rounded_bounds positive fits
  unfold Nat.dist
  omega

theorem nearest_rounded (positive : 0 < step) (fits : n + step / 2 ≤ limit) :
    Nearest step n (rounded limit step n) := by
  refine ⟨Nat.dvd_mul_left .., ?_⟩
  rintro _ ⟨k, rfl⟩
  obtain ⟨above, below⟩ := rounded_bounds positive fits
  obtain ⟨j, found⟩ : step ∣ rounded limit step n := Nat.dvd_mul_left ..
  rw [found] at above below ⊢
  unfold Nat.dist
  -- another multiple is at least a step away
  rcases Nat.lt_trichotomy k j with less | rfl | more
  · have apart := Nat.mul_le_mul_left step (Nat.succ_le_of_lt less)
    rw [Nat.mul_succ] at apart
    omega
  · omega
  · have apart := Nat.mul_le_mul_left step (Nat.succ_le_of_lt more)
    rw [Nat.mul_succ] at apart
    omega

end Rounding

/-! ### Bands -/

/-- Where the band of a response time starts. -/
def bandStart (n : Nat) : Nat :=
  if n < 100 then 0 else if n < 1000 then 100 else if n < 10000 then 1000 else 10000

section Bands

variable {n m : Nat}

theorem bucketStep_pos (n : Nat) : 0 < bucketStep n := by
  unfold bucketStep
  split_ifs <;> decide

theorem bucketStep_le (n : Nat) : bucketStep n ≤ 1000 := by
  unfold bucketStep
  split_ifs <;> decide

theorem bandStart_le (n : Nat) : bandStart n ≤ n := by
  unfold bandStart
  split_ifs <;> omega

theorem bucketStep_dvd_bandStart (n : Nat) : bucketStep n ∣ bandStart n := by
  unfold bucketStep bandStart
  split_ifs <;> decide

theorem bucketStep_dvd_bucketStep (le : n ≤ m) : bucketStep n ∣ bucketStep m := by
  unfold bucketStep
  split_ifs <;> first | decide | omega

theorem bucketStep_eq_of_bandStart_le (within : bandStart m ≤ n) (le : n ≤ m) :
    bucketStep n = bucketStep m := by
  unfold bandStart at within
  unfold bucketStep
  split_ifs at within ⊢ <;> omega

/-- The bucket of a response time as a natural number. -/
def bucketOf (n : Nat) : Nat := rounded (UInt64.size - 1) (bucketStep n) n

theorem bucketOf_lt (n : Nat) : bucketOf n < UInt64.size :=
  Nat.lt_of_le_of_lt rounded_le_limit (by decide)

theorem bandStart_le_bucketOf (fits : n < UInt64.size) : bandStart n ≤ bucketOf n := by
  have start := bandStart_le n
  exact le_rounded_of_dvd (bucketStep_pos n) (bucketStep_dvd_bandStart n) start (by omega)

/-- Nothing is rounded past the start of a later band. -/
theorem bucketOf_le_bandStart (le : n ≤ m) (before : n ≤ bandStart m) :
    bucketOf n ≤ bandStart m := by
  have divides : bucketStep n ∣ bandStart m :=
    (bucketStep_dvd_bucketStep le).trans (bucketStep_dvd_bandStart m)
  exact rounded_le_of_dvd (bucketStep_pos n) divides before

theorem bucketOf_mono (le : n ≤ m) (fits : m < UInt64.size) : bucketOf n ≤ bucketOf m := by
  by_cases within : bandStart m ≤ n
  · rw [bucketOf, bucketOf, bucketStep_eq_of_bandStart_le within le]
    exact rounded_mono le
  · calc bucketOf n ≤ bandStart m := bucketOf_le_bandStart le (by omega)
      _ ≤ bucketOf m := bandStart_le_bucketOf fits

theorem bucketOf_of_dvd (divides : bucketStep n ∣ n) (fits : n < UInt64.size) :
    bucketOf n = n := by
  apply Nat.le_antisymm
  · exact rounded_le_of_dvd (bucketStep_pos n) divides (Nat.le_refl n)
  · exact le_rounded_of_dvd (bucketStep_pos n) divides (Nat.le_refl n) (by omega)

/-- A bucket is a multiple of the step of the band that it lies in itself. -/
theorem bucketStep_bucketOf_dvd (fits : n < UInt64.size) :
    bucketStep (bucketOf n) ∣ bucketOf n := by
  by_cases crossed : n < bandStart (bucketOf n)
  · -- rounded up into a later band, and so exactly to its start
    have above := bandStart_le (bucketOf n)
    have start : bandStart (bucketOf n) = bucketOf n :=
      Nat.le_antisymm above (bucketOf_le_bandStart (by omega) (by omega))
    have divides := bucketStep_dvd_bandStart (bucketOf n)
    rwa [start] at divides
  · -- the bucket is still in the band of `n`
    have same : bucketStep (bucketOf n) = bucketStep n := by
      rcases Nat.le_total (bucketOf n) n with down | up
      · exact bucketStep_eq_of_bandStart_le (bandStart_le_bucketOf fits) down
      · exact (bucketStep_eq_of_bandStart_le (by omega) up).symm
    rw [same]
    exact Nat.dvd_mul_left ..

theorem bucketOf_bucketOf (fits : n < UInt64.size) : bucketOf (bucketOf n) = bucketOf n :=
  bucketOf_of_dvd (bucketStep_bucketOf_dvd fits) (bucketOf_lt n)

end Bands

/-! ### Words of 64 bits -/

/-- What is multiplied with the step, in words. -/
def bucketQuotient (ms : Millis) : Millis :=
  Millis.saturatingAdd ms (.ofNat (bucketStep ms.toNat / 2)) / .ofNat (bucketStep ms.toNat)

section Words

variable {a b : Millis}

theorem toNat_ofNat_of_le_thousand {n : Nat} (small : n ≤ 1000) : (UInt64.ofNat n).toNat = n :=
  UInt64.toNat_ofNat_of_lt' (Nat.lt_of_le_of_lt small (by decide))

theorem toNat_halfStepAdded (ms : Millis) :
    (Millis.saturatingAdd ms (.ofNat (bucketStep ms.toNat / 2))).toNat =
      min (ms.toNat + bucketStep ms.toNat / 2) (UInt64.size - 1) := by
  have small := bucketStep_le ms.toNat
  rw [Millis.toNat_saturatingAdd, toNat_ofNat_of_le_thousand (by omega)]

theorem toNat_bucketQuotient (ms : Millis) :
    (bucketQuotient ms).toNat * bucketStep ms.toNat = bucketOf ms.toNat := by
  rw [bucketQuotient, UInt64.toNat_div, toNat_halfStepAdded,
    toNat_ofNat_of_le_thousand (bucketStep_le _)]
  rfl

theorem bucket_eq (ms : Millis) : bucket ms = .ofNat (bucketOf ms.toNat) := by
  simp only [bucket, toNat_halfStepAdded]
  rfl

theorem toNat_bucket (ms : Millis) : (bucket ms).toNat = bucketOf ms.toNat := by
  rw [bucket_eq, UInt64.toNat_ofNat_of_lt' (bucketOf_lt _)]

theorem bucket_eq_mul (ms : Millis) :
    bucket ms = bucketQuotient ms * .ofNat (bucketStep ms.toNat) := by
  apply UInt64.toNat_inj.mp
  rw [toNat_bucket, UInt64.toNat_mul, toNat_ofNat_of_le_thousand (bucketStep_le _),
    toNat_bucketQuotient]
  exact (Nat.mod_eq_of_lt (bucketOf_lt _)).symm

theorem bucket_mono (le : a ≤ b) : bucket a ≤ bucket b := by
  rw [UInt64.le_iff_toNat_le] at le ⊢
  rw [toNat_bucket, toNat_bucket]
  exact bucketOf_mono le b.toNat_lt

@[simp] theorem bucket_bucket (ms : Millis) : bucket (bucket ms) = bucket ms := by
  apply UInt64.toNat_inj.mp
  rw [toNat_bucket, toNat_bucket, bucketOf_bucketOf ms.toNat_lt]

end Words

/-- Buckets come in the order of the response times and round to themselves. While half of the
largest step can be added, a bucket is at most half a step away and is the nearest one, halves
rounded up. The product in the rounding is one of words and never overflows. -/
theorem bucket_rounds_in_order :
    (∀ a b : Millis, a ≤ b → bucket a ≤ bucket b) ∧
    (∀ ms, bucket (bucket ms) = bucket ms) ∧
    (∀ ms : Millis, ms.toNat ≤ 2 ^ 64 - 1 - 500 →
      (bucket ms).toNat.dist ms.toNat ≤ bucketStep ms.toNat / 2 ∧
      Nearest (bucketStep ms.toNat) ms.toNat (bucket ms).toNat) ∧
    ∀ ms, (bucketQuotient ms).toNat * bucketStep ms.toNat < UInt64.size ∧
      bucket ms = bucketQuotient ms * .ofNat (bucketStep ms.toNat) := by
  refine ⟨fun a b => bucket_mono, bucket_bucket, fun ms room => ?_, fun ms => ?_⟩
  · have small := bucketStep_le ms.toNat
    have fits : ms.toNat + bucketStep ms.toNat / 2 ≤ UInt64.size - 1 := by
      show _ ≤ 2 ^ 64 - 1
      omega
    rw [toNat_bucket]
    exact ⟨dist_rounded_le (bucketStep_pos _) fits, nearest_rounded (bucketStep_pos _) fits⟩
  · rw [toNat_bucketQuotient]
    exact ⟨bucketOf_lt _, bucket_eq_mul ms⟩

/-- Into the next band, at a half, and at the largest word. -/
theorem bucket_rounds_in_order_edges :
    (9999 : Millis) ≤ 18446744073709551615 ∧
      bucket 9999 ≤ bucket 18446744073709551615 ∧
      bucket (bucket 9999) = bucket 9999 ∧
      (10500 : Millis).toNat ≤ 2 ^ 64 - 1 - 500 ∧ Nearest 1000 10500 11000 ∧
      bucket 9999 = 10000 ∧ bucket 18446744073709551615 = 18446744073709551000 := by
  obtain ⟨order, fixed, nearest, -⟩ := bucket_rounds_in_order
  exact ⟨by decide, order 9999 18446744073709551615 (by decide), fixed 9999, by decide,
    (nearest 10500 (by decide)).2, by decide, by decide⟩

end Muster
