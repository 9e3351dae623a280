import Mathlib.Algebra.Order.Field.Basic
import Mathlib.Tactic.Linarith

/-!
# Token buckets

A bucket of tokens that refills with time up to a capacity. What was ever taken from it is bounded
by the capacity and the refill of the time that passed, as long as its clock never goes back.
-/

namespace ReputationKey.Base

/-- The tokens a bucket held at its last reading of the clock. -/
structure TokenBucket (K : Type*) where
  tokens : K
  updatedAt : K
  deriving DecidableEq, Repr

namespace TokenBucket

variable {K : Type*} [Field K] [LinearOrder K] [IsStrictOrderedRing K]

/-- What a bucket holds at a reading. A reading that is not later than the last brings nothing. -/
def levelAt (capacity rate : K) (bucket : TokenBucket K) (now : K) : K :=
  if bucket.updatedAt < now then min capacity (bucket.tokens + (now - bucket.updatedAt) * rate)
  else bucket.tokens

/-- The bucket as a reading leaves it. -/
def stamp (capacity rate : K) (bucket : TokenBucket K) (now : K) : TokenBucket K :=
  ⟨bucket.levelAt capacity rate now, now⟩

variable {capacity rate now : K} {bucket : TokenBucket K}

omit [IsStrictOrderedRing K] in
theorem levelAt_le (hcapacity : bucket.tokens ≤ capacity) :
    bucket.levelAt capacity rate now ≤ capacity := by
  rw [levelAt]
  split
  · exact min_le_left _ _
  · exact hcapacity

theorem le_levelAt (hrate : 0 ≤ rate) (hcapacity : bucket.tokens ≤ capacity) :
    bucket.tokens ≤ bucket.levelAt capacity rate now := by
  rw [levelAt]
  split
  · next hlater =>
    have hgain : 0 ≤ (now - bucket.updatedAt) * rate :=
      mul_nonneg (sub_nonneg.2 (le_of_lt hlater)) hrate
    exact le_min hcapacity (by linarith)
  · exact le_refl _

omit [IsStrictOrderedRing K] in
/-- A level never exceeds what the time since the last reading could bring. -/
theorem levelAt_le_refill (hnow : bucket.updatedAt ≤ now) :
    bucket.levelAt capacity rate now ≤ bucket.tokens + (now - bucket.updatedAt) * rate := by
  rw [levelAt]
  split
  · exact min_le_right _ _
  · next hlater =>
    have hsame : now = bucket.updatedAt := le_antisymm (not_lt.1 hlater) hnow
    rw [hsame, sub_self, zero_mul, add_zero]

/-- The account of a bucket: once tokens were taken, those taken and those still there are at most
the capacity and what the time since the first taking refilled. -/
structure Accounts (capacity rate start spent : K) (bucket : TokenBucket K) : Prop where
  nonneg : 0 ≤ bucket.tokens
  withinCapacity : bucket.tokens ≤ capacity
  balance : spent ≠ 0 → spent + bucket.tokens ≤ capacity + rate * (bucket.updatedAt - start)

variable {start spent : K}

omit [IsStrictOrderedRing K] in
theorem Accounts.fresh (hcapacity : 0 ≤ capacity) :
    Accounts capacity rate start 0 ⟨capacity, now⟩ :=
  ⟨hcapacity, le_refl _, fun h ↦ absurd rfl h⟩

/-- A reading that does not go back keeps the account. -/
theorem Accounts.stamp (h : Accounts capacity rate start spent bucket) (hrate : 0 ≤ rate)
    (hnow : bucket.updatedAt ≤ now) :
    Accounts capacity rate start spent (bucket.stamp capacity rate now) := by
  have hlevel : bucket.levelAt capacity rate now ≤
      bucket.tokens + (now - bucket.updatedAt) * rate := levelAt_le_refill hnow
  refine ⟨le_trans h.nonneg (le_levelAt hrate h.withinCapacity), levelAt_le h.withinCapacity, ?_⟩
  intro hspent
  have hbalance := h.balance hspent
  simp only [TokenBucket.stamp]
  linarith

/-- Taking tokens that are there, not before the start, keeps the account. -/
theorem Accounts.take (h : Accounts capacity rate start spent bucket) (hrate : 0 ≤ rate) {cost : K}
    (hcost : 0 ≤ cost) (hthere : cost ≤ bucket.tokens) (hstart : start ≤ bucket.updatedAt) :
    Accounts capacity rate start (spent + cost) ⟨bucket.tokens - cost, bucket.updatedAt⟩ := by
  have hwithin := h.withinCapacity
  refine ⟨sub_nonneg.2 hthere, by simp only; linarith, ?_⟩
  intro _
  by_cases hspent : spent = 0
  · have hgain : 0 ≤ rate * (bucket.updatedAt - start) := mul_nonneg hrate (sub_nonneg.2 hstart)
    simp only [hspent]
    linarith
  · have hbalance := h.balance hspent
    simp only
    linarith

/-- What was taken is bounded by the capacity and the refill of the time that passed. -/
theorem Accounts.spent_le (h : Accounts capacity rate start spent bucket) (hrate : 0 ≤ rate)
    (hspent : spent ≠ 0) {finish : K} (hfinish : bucket.updatedAt ≤ finish) :
    spent ≤ capacity + rate * (finish - start) := by
  have hbalance := h.balance hspent
  have hnonneg := h.nonneg
  have hgain : rate * (bucket.updatedAt - start) ≤ rate * (finish - start) := by
    apply mul_le_mul_of_nonneg_left _ hrate
    linarith
  linarith

end TokenBucket

end ReputationKey.Base
