import ReputationKey.Base.JsNumber
import ReputationKey.Base.KeyedRecord
import ReputationKey.Base.Run
import ReputationKey.Base.TokenBucket
import Mathlib.Data.Rat.Floor

/-!
# The shared quota of Google calls

Every Google call is admitted by the token buckets of its route's policy, kept in one Redis and
read with the clocks of several servers. Token amounts are exact numbers and Redis answers every
call. Follows `src/src/shared/google-provider-control/quota-coordinator.ts` and
`ACQUIRE_QUOTA_SCRIPT` of `src/src/shared/google-provider-control/redis-coordination-scripts.ts`.
-/

namespace ReputationKey.Shared

open Base

/-! ## Policies -/

/-- What the calls that share a bucket have in common. -/
inductive GoogleQuotaScope
  | endpoint
  | project
  | connection
  | userOrganizationConnection
  | userOrganizationProperty
  | credentialProjectEndpoint
  deriving DecidableEq, Repr

structure GoogleQuotaBucketPolicy where
  id : String
  scope : GoogleQuotaScope
  capacity : ℕ
  refillTokens : ℚ
  refillIntervalMs : ℕ
  deriving DecidableEq, Repr

/-- The quota part of a policy. -/
structure GoogleQuotaPolicy where
  buckets : List GoogleQuotaBucketPolicy
  deriving DecidableEq, Repr

/-- The identity test `/^[a-z0-9-]{1,128}$/`. -/
def isPolicyId (id : String) : Bool :=
  decide (1 ≤ id.length) && decide (id.length ≤ 128) &&
    id.toList.all fun c ↦ (decide ('a' ≤ c) && decide (c ≤ 'z')) || c.isDigit || c == '-'

def validBucket (policy : GoogleQuotaBucketPolicy) : Bool :=
  isPolicyId policy.id && (JsNumber.finite policy.capacity).isSafeInteger &&
    decide (1 ≤ policy.capacity) && decide (0 < policy.refillTokens) &&
    (JsNumber.finite policy.refillIntervalMs).isSafeInteger &&
    decide (100 ≤ policy.refillIntervalMs) &&
    decide (policy.refillIntervalMs ≤ 24 * 60 * 60000)

/-- The tests of a policy's buckets. -/
def validPolicy (policyId : String) (policy : GoogleQuotaPolicy) : Bool :=
  isPolicyId policyId && decide (1 ≤ policy.buckets.length) && decide (policy.buckets.length ≤ 8) &&
    policy.buckets.all validBucket && decide (policy.buckets.map (·.id)).Nodup

/-! ## Keys -/

/-- What a call is made for. -/
structure GoogleQuotaKey where
  credentialFingerprint : String
  projectFingerprint : String
  endpointClass : String
  organizationId : String
  initiatorUserId : Option String
  connectionId : Option String
  propertyId : Option String
  deriving DecidableEq, Repr

/-- The test `/^[a-f0-9]{64}$/`. -/
def isFingerprint (text : String) : Bool :=
  decide (text.length = 64) &&
    text.toList.all fun c ↦ (decide ('a' ≤ c) && decide (c ≤ 'f')) || c.isDigit

/-- One to 255 letters, digits or the marks a scope identity may hold. -/
def isSafeScopeId (text : String) : Bool :=
  decide (1 ≤ text.length) && decide (text.length ≤ 255) &&
    text.toList.all fun c ↦ c.isAlphanum || ['.', '_', ':', '@', '/', '-'].contains c

def validBaseKey (key : GoogleQuotaKey) : Bool :=
  isFingerprint key.credentialFingerprint && isFingerprint key.projectFingerprint

def requiredScopeId (value : Option String) : Option String := value.filter isSafeScopeId

/-- The texts a bucket is bound to; the source stores them as one JSON array. -/
abbrev ScopeBinding := List String

def scopeBinding (key : GoogleQuotaKey) (scope : GoogleQuotaScope) : Option ScopeBinding :=
  if validBaseKey key = false then none
  else
    let organizationId := requiredScopeId (some key.organizationId)
    let initiatorUserId := requiredScopeId key.initiatorUserId
    let connectionId := requiredScopeId key.connectionId
    let propertyId := requiredScopeId key.propertyId
    match scope with
    | .endpoint => some ["endpoint", key.endpointClass]
    | .project => some ["project", key.projectFingerprint]
    | .connection => connectionId.map fun connectionId ↦ ["connection", connectionId]
    | .userOrganizationConnection =>
        match initiatorUserId, organizationId, connectionId with
        | some user, some organization, some connection =>
            some ["user_organization_connection", user, organization, connection]
        | _, _, _ => none
    | .userOrganizationProperty =>
        match initiatorUserId, organizationId, propertyId with
        | some user, some organization, some property =>
            some ["user_organization_property", user, organization, property]
        | _, _, _ => none
    | .credentialProjectEndpoint =>
        some ["credential_project_endpoint", key.credentialFingerprint, key.projectFingerprint,
          key.endpointClass]

/-- A key of Redis. The source writes its parts, none of which holds a colon, into one text. -/
structure CoordinationKey where
  policyId : String
  bucketId : String
  digest : String
  deriving DecidableEq, Repr

/-- SHA-256 of the policy, the bucket and the binding. -/
abbrev KeyDigest := String → String → ScopeBinding → String

/-! ## The script -/

/-- A bucket as Redis holds it. -/
structure QuotaBucket extends TokenBucket ℚ where
  binding : ScopeBinding
  deriving DecidableEq, Repr

abbrev QuotaStore := KeyedRecord CoordinationKey QuotaBucket

/-- What the script is told about one bucket. -/
structure BucketArguments where
  key : CoordinationKey
  binding : ScopeBinding
  capacity : ℚ
  refillPerMs : ℚ
  bucketCost : ℚ
  deriving DecidableEq, Repr

/-- The script's answer. -/
inductive QuotaReply
  | collision
  | refused (advice : ℤ)
  | allowed (remaining : ℤ)
  deriving DecidableEq, Repr

/-- The bucket is bound to other texts. -/
def BucketArguments.collides (store : QuotaStore) (args : BucketArguments) : Bool :=
  (store args.key).any fun bucket ↦ bucket.binding != args.binding

/-- The tokens of a bucket at a reading; a bucket not there yet is full. -/
def BucketArguments.tokens (store : QuotaStore) (nowMs : ℚ) (args : BucketArguments) : ℚ :=
  ((store args.key).elim ⟨args.capacity, nowMs⟩ QuotaBucket.toTokenBucket).levelAt args.capacity
    args.refillPerMs nowMs

/-- The wait that brings what a bucket lacks. -/
def BucketArguments.shortfall (store : QuotaStore) (nowMs : ℚ) (args : BucketArguments) : ℤ :=
  ⌈(args.bucketCost - args.tokens store nowMs) / args.refillPerMs⌉

/-- Write every bucket at the reading, less its cost when the call is allowed. -/
def writeBuckets (store : QuotaStore) (nowMs : ℚ) (allowed : Bool) (args : List BucketArguments) :
    QuotaStore :=
  (args.map fun a ↦
      (a.key, QuotaBucket.mk
        ⟨if allowed then a.tokens store nowMs - a.bucketCost else a.tokens store nowMs, nowMs⟩
        a.binding)).foldl
    (fun store entry ↦ store.set entry.1 entry.2) store

/-- The least of the tokens left. -/
def leastRemaining (left : List ℚ) : ℚ :=
  (left.foldl (fun least tokens ↦ some (least.elim tokens fun l ↦ if tokens < l then tokens else l))
    none).getD 0

/-- The script: every bucket is read, the call is allowed when none lacks its cost, and every bucket
is written at the call's reading, allowed or not. -/
def acquireQuotaScript (store : QuotaStore) (nowMs : ℚ) (args : List BucketArguments) :
    QuotaReply × QuotaStore :=
  if args.any (·.collides store) then (.collision, store)
  else
    let short := args.filter fun a ↦ decide (a.tokens store nowMs < a.bucketCost)
    let advice := short.foldl (fun advice a ↦ max advice (a.shortfall store nowMs)) 0
    let allowed := short.isEmpty
    let left := args.map fun a ↦
      if allowed then a.tokens store nowMs - a.bucketCost else a.tokens store nowMs
    let written := writeBuckets store nowMs allowed args
    if allowed then (.allowed ⌊leastRemaining left⌋, written) else (.refused advice, written)

/-! ## The coordinator -/

inductive GoogleQuotaRefusal
  | invalidRequest
  | deadlineExceeded
  | quotaExhausted
  | keyCollision
  deriving DecidableEq, Repr

inductive GoogleQuotaResult
  | ok (remaining : ℤ)
  | refused (code : GoogleQuotaRefusal) (retryAfterMs : ℤ)
  deriving DecidableEq, Repr

/-- Millionths of a token. -/
def microTokens : ℚ := 1000000

/-- A coordinator is built only from a valid policy. -/
structure QuotaCoordinator where
  digest : KeyDigest
  policyId : String
  policy : GoogleQuotaPolicy
  valid : validPolicy policyId policy = true

/-- One call: what it is for, what it costs, by when, and the reading of its server's clock. -/
structure QuotaCall where
  key : GoogleQuotaKey
  cost : JsNumber
  deadlineMs : JsNumber
  nowMs : ℚ
  deriving DecidableEq, Repr

namespace QuotaCoordinator

variable (coordinator : QuotaCoordinator)

/-- The Redis key of a bucket. -/
def coordinationKey (policy : GoogleQuotaBucketPolicy) (binding : ScopeBinding) : CoordinationKey :=
  ⟨coordinator.policyId, policy.id, coordinator.digest coordinator.policyId policy.id binding⟩

/-- What the script is told about one bucket of the policy. -/
def argumentsOf (cost : ℚ) (policy : GoogleQuotaBucketPolicy) (binding : ScopeBinding) :
    BucketArguments where
  key := coordinator.coordinationKey policy binding
  binding := binding
  capacity := policy.capacity * microTokens
  refillPerMs := policy.refillTokens * microTokens / policy.refillIntervalMs
  bucketCost := cost * microTokens

/-- What the script is told about every bucket; a bucket of another scope than the key has none. -/
def quotaBucketArguments (key : GoogleQuotaKey) (cost : ℚ) : List BucketArguments :=
  coordinator.policy.buckets.filterMap fun policy ↦
    (scopeBinding key policy.scope).map (coordinator.argumentsOf cost policy)

/-- The request is one the script may be asked. -/
def validRequest (key : GoogleQuotaKey) (cost deadlineMs : JsNumber) : Bool :=
  !(coordinator.policy.buckets.any fun policy ↦ (scopeBinding key policy.scope).isNone) &&
    cost.isSafeInteger && cost.isAtLeast 1 &&
    !(coordinator.policy.buckets.any fun policy ↦ (JsNumber.finite policy.capacity).lt cost) &&
    deadlineMs.isSafeInteger

/-- Acquire the quota of one call. -/
def acquire (store : QuotaStore) (call : QuotaCall) : GoogleQuotaResult × QuotaStore :=
  match call.cost, call.deadlineMs with
  | .finite cost, .finite deadlineMs =>
      if coordinator.validRequest call.key (.finite cost) (.finite deadlineMs) = false then
        (.refused .invalidRequest 0, store)
      else if deadlineMs ≤ call.nowMs then (.refused .deadlineExceeded 0, store)
      else
        match acquireQuotaScript store call.nowMs (coordinator.quotaBucketArguments call.key cost)
        with
        | (.collision, store) => (.refused .keyCollision 0, store)
        | (.allowed remaining, store) => (.ok (max 0 ⌊(remaining : ℚ) / microTokens⌋), store)
        | (.refused advice, store) =>
            let retryAfterMs := max 1 advice
            if deadlineMs < call.nowMs + retryAfterMs then
              (.refused .deadlineExceeded retryAfterMs, store)
            else (.refused .quotaExhausted retryAfterMs, store)
  | _, _ => (.refused .invalidRequest 0, store)

end QuotaCoordinator

end ReputationKey.Shared
