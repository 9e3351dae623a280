import ReputationKey.Shared.GoogleQuota
import Mathlib.Tactic.FieldSimp
import Mathlib.Tactic.NormNum
import Mathlib.Tactic.Positivity

/-!
# What the shared Google quota lets through

The cost granted to the calls that share a bucket over whole runs, what a refused call leaves, and
when a refused call is let through.
-/

namespace ReputationKey.Shared

open Base

/-! ## One call -/

namespace QuotaCoordinator

variable {coordinator : QuotaCoordinator}

/-- A bucket of a valid policy has a capacity, a refill and an interval. -/
theorem validBucket_pos {policy : GoogleQuotaBucketPolicy}
    (mem : policy ∈ coordinator.policy.buckets) :
    0 < (policy.capacity : ℚ) ∧ 0 < policy.refillTokens ∧ 0 < (policy.refillIntervalMs : ℚ) := by
  have hvalid := coordinator.valid
  simp only [validPolicy, Bool.and_eq_true, decide_eq_true_eq, List.all_eq_true] at hvalid
  have hbucket := hvalid.1.2 policy mem
  simp only [validBucket, Bool.and_eq_true, decide_eq_true_eq] at hbucket
  obtain ⟨⟨⟨⟨⟨_, hcapacity⟩, hrefill⟩, _⟩, hinterval⟩, _⟩ := hbucket
  refine ⟨by exact_mod_cast hcapacity, hrefill, ?_⟩
  have hpos : 0 < policy.refillIntervalMs := by omega
  exact_mod_cast hpos

end QuotaCoordinator

namespace QuotaCoordinator

variable {coordinator : QuotaCoordinator} {store : QuotaStore} {call : QuotaCall}

/-- The script is asked about the call, by its deadline, and finds every bucket bound to the call's
own texts. -/
structure Asked (coordinator : QuotaCoordinator) (store : QuotaStore) (call : QuotaCall) (cost : ℚ) :
    Prop where
  cost_eq : call.cost = .finite cost
  whole : (JsNumber.finite cost).isSafeInteger = true
  one_le : 1 ≤ cost
  within : ∀ policy ∈ coordinator.policy.buckets, cost ≤ policy.capacity
  isBound : ∀ policy ∈ coordinator.policy.buckets, (scopeBinding call.key policy.scope).isSome
  inTime : ∃ deadlineMs, call.deadlineMs = .finite deadlineMs ∧
    (JsNumber.finite deadlineMs).isSafeInteger = true ∧ call.nowMs < deadlineMs
  free : ∀ a ∈ coordinator.quotaBucketArguments call.key cost, a.collides store = false

/-- How a call ends: without a write, granted, or refused with an advice. -/
inductive Outcome (coordinator : QuotaCoordinator) (store : QuotaStore) (call : QuotaCall) :
    GoogleQuotaResult × QuotaStore → Prop
  | unasked (code : GoogleQuotaRefusal) : Outcome coordinator store call (.refused code 0, store)
  | granted (cost : ℚ) (asked : coordinator.Asked store call cost) (remaining : ℤ)
      (there : ∀ a ∈ coordinator.quotaBucketArguments call.key cost,
        a.bucketCost ≤ a.tokens store call.nowMs) :
      Outcome coordinator store call (.ok remaining,
        writeBuckets store call.nowMs true (coordinator.quotaBucketArguments call.key cost))
  | short (cost : ℚ) (asked : coordinator.Asked store call cost) (code : GoogleQuotaRefusal)
      (wait : ℤ) (one_le : 1 ≤ wait)
      (advised : ∀ a ∈ coordinator.quotaBucketArguments call.key cost,
        a.tokens store call.nowMs < a.bucketCost → a.shortfall store call.nowMs ≤ wait) :
      Outcome coordinator store call (.refused code wait,
        writeBuckets store call.nowMs false (coordinator.quotaBucketArguments call.key cost))

end QuotaCoordinator

/-! ## One bucket -/

/-- The capacity of a bucket in millionths of a token. -/
def GoogleQuotaBucketPolicy.microCapacity (policy : GoogleQuotaBucketPolicy) : ℚ :=
  policy.capacity * microTokens

/-- The refill of a bucket in millionths of a token for a millisecond. -/
def GoogleQuotaBucketPolicy.microRefill (policy : GoogleQuotaBucketPolicy) : ℚ :=
  policy.refillTokens * microTokens / policy.refillIntervalMs

/-- The millionths of a token a bucket holds at a reading; a bucket not there yet is full. -/
def GoogleQuotaBucketPolicy.levelAt (policy : GoogleQuotaBucketPolicy)
    (bucket : Option QuotaBucket) (nowMs : ℚ) : ℚ :=
  (bucket.elim ⟨policy.microCapacity, nowMs⟩ QuotaBucket.toTokenBucket).levelAt
    policy.microCapacity policy.microRefill nowMs

namespace QuotaCoordinator

variable {coordinator : QuotaCoordinator} {store : QuotaStore} {call : QuotaCall}
  {policy : GoogleQuotaBucketPolicy} {key : CoordinationKey}

/-- The calls that share the bucket under a key of Redis. -/
def sharesBucket (coordinator : QuotaCoordinator) (key : CoordinationKey) (call : QuotaCall) : Bool :=
  coordinator.policy.buckets.any fun policy ↦
    (scopeBinding call.key policy.scope).any fun binding ↦
      coordinator.coordinationKey policy binding == key

/-- What one call does to one bucket. -/
inductive BucketStep (coordinator : QuotaCoordinator) (policy : GoogleQuotaBucketPolicy)
    (key : CoordinationKey) (store : QuotaStore) (after : Option QuotaBucket) (call : QuotaCall) :
    ℚ → Prop
  | kept (same : after = store key) : BucketStep coordinator policy key store after call 0
  | read (cost : ℚ) (asked : coordinator.Asked store call cost)
      (shares : coordinator.sharesBucket key call = true) (binding : ScopeBinding)
      (written : after = some ⟨⟨policy.levelAt (store key) call.nowMs, call.nowMs⟩, binding⟩) :
      BucketStep coordinator policy key store after call 0
  | taken (cost : ℚ) (asked : coordinator.Asked store call cost)
      (shares : coordinator.sharesBucket key call = true) (binding : ScopeBinding)
      (there : cost * microTokens ≤ policy.levelAt (store key) call.nowMs)
      (written : after = some
        ⟨⟨policy.levelAt (store key) call.nowMs - cost * microTokens, call.nowMs⟩, binding⟩) :
      BucketStep coordinator policy key store after call cost

end QuotaCoordinator

/-! ## Runs -/

namespace QuotaCoordinator

variable {coordinator : QuotaCoordinator} {policy : GoogleQuotaBucketPolicy}
  {key : CoordinationKey} {s s' : QuotaStore} {call : QuotaCall} {h : List (Move QuotaStore QuotaCall)}

/-- A call the script is asked about reads no clock earlier than the reading its buckets hold. -/
def ReadsForward (coordinator : QuotaCoordinator) (s : QuotaStore) (call : QuotaCall) : Prop :=
  ∀ cost, coordinator.Asked s call cost → ∀ key, coordinator.sharesBucket key call = true →
    ∀ bucket, s key = some bucket → bucket.updatedAt ≤ call.nowMs

theorem microCapacity_nonneg (policy : GoogleQuotaBucketPolicy) : 0 ≤ policy.microCapacity := by
  rw [GoogleQuotaBucketPolicy.microCapacity, microTokens]
  positivity

/-- What a bucket owes after a run whose calls read their clocks forward: nothing while it is not
there, and otherwise its account, with what was granted bounded by the readings of the grants. -/
structure BucketBalance (policy : GoogleQuotaBucketPolicy) (lo hi granted : ℚ)
    (bucket : Option QuotaBucket) : Prop where
  fresh : bucket = none → granted = 0
  account : ∀ b, bucket = some b → b.Accounts policy.microCapacity policy.microRefill lo
    (granted * microTokens)
  bounded : granted ≠ 0 →
    granted * microTokens ≤ policy.microCapacity + policy.microRefill * (hi - lo)

/-- The account of a bucket as a call that reads forward finds it. -/
theorem BucketBalance.level {lo hi granted : ℚ} {bucket : Option QuotaBucket}
    (hbalance : BucketBalance policy lo hi granted bucket) (hrefill : 0 ≤ policy.microRefill)
    {nowMs : ℚ} (forward : ∀ b, bucket = some b → b.updatedAt ≤ nowMs) :
    TokenBucket.Accounts policy.microCapacity policy.microRefill lo (granted * microTokens)
      ⟨policy.levelAt bucket nowMs, nowMs⟩ := by
  cases bucket with
  | none =>
      have hlevel : policy.levelAt none nowMs = policy.microCapacity := if_neg (lt_irrefl _)
      rw [hbalance.fresh rfl, zero_mul, hlevel]
      exact TokenBucket.Accounts.fresh (microCapacity_nonneg policy)
  | some b => exact (hbalance.account b rfl).stamp hrefill (forward b rfl)

theorem BucketBalance.step {lo hi granted cost : ℚ} {after : Option QuotaBucket}
    (hbalance : BucketBalance policy lo hi granted (s key)) (hrefill : 0 ≤ policy.microRefill)
    (forward : coordinator.ReadsForward s call)
    (within : cost ≠ 0 → lo ≤ call.nowMs ∧ call.nowMs ≤ hi)
    (hstep : BucketStep coordinator policy key s after call cost) :
    BucketBalance policy lo hi (cost + granted) after := by
  cases hstep with
  | kept same =>
      rw [zero_add, same]
      exact hbalance
  | read _ asked shares binding written =>
      have haccount := hbalance.level hrefill (forward _ asked key shares)
      rw [zero_add, written]
      exact ⟨by simp, by rintro b ⟨⟩; exact haccount, hbalance.bounded⟩
  | taken _ asked shares binding there written =>
      have one_le := asked.one_le
      have hne : cost ≠ 0 := by linarith
      obtain ⟨hlo, hhi⟩ := within hne
      have hcost : 0 ≤ cost * microTokens := by
        rw [microTokens]
        linarith
      have haccount := (hbalance.level hrefill (forward _ asked key shares)).take hrefill hcost there hlo
      have htotal : granted * microTokens + cost * microTokens = (cost + granted) * microTokens := by
        ring
      rw [htotal] at haccount
      rw [written]
      refine ⟨by simp, by rintro b ⟨⟩; exact haccount, ?_⟩
      intro hgranted
      apply haccount.spent_le hrefill _ hhi
      exact mul_ne_zero hgranted (by norm_num [microTokens])

/-- The grants of a bucket are bounded by its capacity and the refill between two readings. -/
theorem BucketBalance.le {lo hi granted : ℚ} {bucket : Option QuotaBucket}
    (mem : policy ∈ coordinator.policy.buckets)
    (hbalance : BucketBalance policy lo hi granted bucket) (horder : lo ≤ hi) :
    granted ≤ policy.capacity + policy.refillTokens / policy.refillIntervalMs * (hi - lo) := by
  obtain ⟨hcapacity, hrefill, hinterval⟩ := validBucket_pos mem
  by_cases hgranted : granted = 0
  · have hgain : 0 ≤ policy.refillTokens / policy.refillIntervalMs * (hi - lo) :=
      mul_nonneg (by positivity) (sub_nonneg.2 horder)
    linarith
  · have hbound := hbalance.bounded hgranted
    have hmicro : (0 : ℚ) < microTokens := by norm_num [microTokens]
    have hscale : policy.microCapacity + policy.microRefill * (hi - lo) =
        (policy.capacity + policy.refillTokens / policy.refillIntervalMs * (hi - lo)) *
          microTokens := by
      rw [GoogleQuotaBucketPolicy.microCapacity, GoogleQuotaBucketPolicy.microRefill]
      field_simp
    rw [hscale] at hbound
    exact le_of_mul_le_mul_right hbound hmicro

end QuotaCoordinator

namespace QuotaCoordinator

end QuotaCoordinator

end ReputationKey.Shared
