import ReputationKey.Base.KeyedRecord
import ReputationKey.Base.SlidingWindow
import ReputationKey.Shared.Uuid
import Mathlib.Algebra.Order.Ring.Int

/-!
# Admission of AI calls by lanes

Every provider-bound AI call is admitted once, against a global, an organization and a property
scope of its lane, and a background draft against its actor and organization too. Admissions are
members of sorted sets in Redis: rates are scored by the instant of admission, calls in flight by
the end of their lease. Instants are epoch milliseconds and Redis expires keys by the same clock.
Follows `src/src/contexts/ai/infrastructure/adapters/ai-lane-admission.adapter.ts` and
`src/src/contexts/ai/domain/admission-lanes.ts`.
-/

namespace ReputationKey.Ai

open Base Shared

/-! ## Budgets -/

inductive AiAdmissionLane
  | interactive
  | background
  deriving DecidableEq, Repr

/-- A scope of an admission, with what it is a scope of. -/
inductive AdmissionScope
  | global
  | organization (organizationId : String)
  | property (propertyId : String)
  deriving DecidableEq, Repr

/-- The sliding window over which admissions are counted. -/
def rateWindowMillis : ℤ := 60000

/-- How long an admission holds its slot when its owner never releases it. -/
def leaseMillis : ℤ := 90000

/-- Admissions in a sliding minute. -/
def ratePerMinute (lane : AiAdmissionLane) : AdmissionScope → ℕ
  | .global => match lane with
    | .interactive => 24
    | .background => 125
  | .organization _ => match lane with
    | .interactive => 12
    | .background => 120
  | .property _ => match lane with
    | .interactive => 6
    | .background => 120

/-- Concurrent provider calls. -/
def inFlightCap (lane : AiAdmissionLane) : AdmissionScope → ℕ
  | .global => match lane with
    | .interactive => 8
    | .background => 24
  | .organization _ => match lane with
    | .interactive => 4
    | .background => 16
  | .property _ => match lane with
    | .interactive => 2
    | .background => 16

/-- Background drafts of one actor in a sliding minute. -/
def draftActorRate : ℕ := 6

/-- Background drafts of one organization in a sliding minute. -/
def draftOrganizationRate : ℕ := 30

/-! ## Keys -/

/-- An admission's identity. The source writes its parts into one text. -/
structure AdmissionToken where
  lane : AiAdmissionLane
  propertyId : String
  organizationId : String
  id : String
  deriving DecidableEq, Repr

/-- The sorted sets of Redis. -/
inductive AdmissionKey
  | rate (scope : AdmissionScope) (lane : AiAdmissionLane)
  | inFlight (scope : AdmissionScope) (lane : AiAdmissionLane)
  | draftActor (actorUserId : String)
  | draftOrganization (organizationId : String)
  deriving DecidableEq, Repr

/-- The three scopes of an admission. -/
def admissionScopes (organizationId propertyId : String) : List AdmissionScope :=
  [.global, .organization organizationId, .property propertyId]

/-- The draft rates of an admission, with their caps. -/
def draftRateKeys (organizationId : String) : Option String → List (AdmissionKey × ℕ)
  | none => []
  | some actorUserId =>
      [(.draftActor actorUserId, draftActorRate),
        (.draftOrganization organizationId, draftOrganizationRate)]

/-! ## The scripts -/

/-- A sorted set, with the instant after which Redis drops it. -/
structure SortedSet where
  members : List (AdmissionToken × ℤ)
  expiresAt : ℤ
  deriving DecidableEq, Repr

/-- The sorted sets and the leases, each until an instant. -/
structure AdmissionStore where
  sets : KeyedRecord AdmissionKey SortedSet
  leases : KeyedRecord AdmissionToken ℤ

/-- The members of a set; none once its key has expired. -/
def liveMembers (now : ℤ) : Option SortedSet → List (AdmissionToken × ℤ)
  | some set => if now ≤ set.expiresAt then set.members else []
  | none => []

/-- Remove the members scored up to a bound. -/
def removeUpTo (now bound : ℤ) (set : Option SortedSet) : Option SortedSet :=
  set.map fun s ↦
    { s with members := (liveMembers now set).filter fun m ↦ decide (bound < m.2) }

/-- Score a member, and let the key expire at an instant. -/
def addMember (now score : ℤ) (token : AdmissionToken) (expiresAt : ℤ) (set : Option SortedSet) :
    Option SortedSet :=
  some ⟨(token, score) :: (liveMembers now set).filter fun m ↦ decide (m.1 ≠ token), expiresAt⟩

/-- Remove a member. -/
def removeMember (now : ℤ) (token : AdmissionToken) (set : Option SortedSet) : Option SortedSet :=
  set.map fun s ↦
    { s with members := (liveMembers now set).filter fun m ↦ decide (m.1 ≠ token) }

/-- Change the sets of some keys. -/
def AdmissionStore.update (store : AdmissionStore) (keys : List AdmissionKey)
    (change : AdmissionKey → Option SortedSet → Option SortedSet) : AdmissionStore :=
  { store with sets := keys.foldl (fun sets key ↦ sets.modify key (change key)) store.sets }

/-- What an admission is asked against: its rates and draft rates with the admissions each allows,
and its calls in flight with their caps. -/
structure AdmissionLimits where
  rates : List (AdmissionKey × ℤ)
  inFlight : List (AdmissionKey × ℕ)
  drafts : List (AdmissionKey × ℕ)
  deriving DecidableEq, Repr

/-- When a rate that is full has room again; none while it has room. -/
def rateFreeAt (scores : List ℤ) (now allowed : ℤ) : Option ℤ :=
  if allowed < 1 ∨ allowed ≤ scores.length then
    some
      (if 1 ≤ allowed then
        match (SlidingWindow.sorted scores)[scores.length - allowed.toNat]? with
        | some freeing => freeing + rateWindowMillis
        | none => now + rateWindowMillis
      else now + rateWindowMillis)
  else none

/-- When to ask again for a slot in flight; none while there is one. -/
def inFlightFreeAt (scores : List ℤ) (now : ℤ) (cap : ℕ) : Option ℤ :=
  if cap ≤ scores.length then
    match (SlidingWindow.sorted scores)[0]? with
    | some earliest => some (min earliest (now + 5000))
    | none => some (now + 1000)
  else none

/-- The script's answer. -/
inductive AdmissionReply
  | denied (retryAt : ℤ)
  | granted (expires : ℤ)
  deriving DecidableEq, Repr

/-- The answer to the scores that every key still counts: denied, until the latest of the instants
at which its full keys have room, or granted. -/
def admissionReply (limits : AdmissionLimits) (scores : AdmissionKey → List ℤ) (now : ℤ) :
    AdmissionReply :=
  let denials :=
    limits.rates.filterMap (fun l ↦ rateFreeAt (scores l.1) now l.2) ++
      limits.inFlight.filterMap (fun l ↦ inFlightFreeAt (scores l.1) now l.2) ++
      limits.drafts.filterMap (fun l ↦ rateFreeAt (scores l.1) now l.2)
  if denials.isEmpty then .granted (now + leaseMillis)
  else .denied (denials.foldl (fun retryAt freeAt ↦ if retryAt < freeAt then freeAt else retryAt) 0)

/-- The score up to which a key's members have aged out at an instant. -/
def AdmissionKey.agedUpTo (now : ℤ) : AdmissionKey → ℤ
  | .inFlight _ _ => now
  | _ => now - rateWindowMillis

/-- The keys the script prunes, counts and writes. -/
def AdmissionLimits.keys (limits : AdmissionLimits) : List AdmissionKey :=
  limits.rates.map Prod.fst ++ limits.inFlight.map Prod.fst ++ limits.drafts.map Prod.fst

/-- The scores a key still counts. -/
def AdmissionStore.scores (store : AdmissionStore) (now : ℤ) (key : AdmissionKey) : List ℤ :=
  ((liveMembers now (store.sets key)).filter fun m ↦ decide (key.agedUpTo now < m.2)).map Prod.snd

/-- Write an admission under one key. -/
def recordMember (now : ℤ) (token : AdmissionToken) :
    AdmissionKey → Option SortedSet → Option SortedSet
  | .inFlight _ _ => addMember now (now + leaseMillis) token (now + (leaseMillis + rateWindowMillis))
  | _ => addMember now now token (now + rateWindowMillis * 2)

/-- The script that acquires: each key is pruned and counted, and an admission is written under
every key or under none. -/
def acquireScript (store : AdmissionStore) (limits : AdmissionLimits) (now : ℤ)
    (token : AdmissionToken) : AdmissionReply × AdmissionStore :=
  let pruned := store.update limits.keys fun key ↦ removeUpTo now (key.agedUpTo now)
  match admissionReply limits (store.scores now) now with
  | .denied retryAt => (.denied retryAt, pruned)
  | .granted expires =>
      let written := pruned.update limits.keys (recordMember now token)
      (.granted expires, { written with leases := written.leases.set token expires })

/-- The script that releases: the slots in flight are freed once, while the lease is there. -/
def releaseScript (store : AdmissionStore) (inFlight : List AdmissionKey) (now : ℤ)
    (token : AdmissionToken) : AdmissionStore :=
  match store.leases token with
  | some expiresAt =>
      if now ≤ expiresAt then
        let freed := store.update inFlight fun _ ↦ removeMember now token
        { freed with leases := freed.leases.erase token }
      else store
  | none => store

/-! ## The adapter -/

/-- One to 255 letters, digits, underscores, dots, colons or hyphens. -/
def isOrganizationId (text : String) : Bool :=
  decide (1 ≤ text.length) && decide (text.length ≤ 255) &&
    text.toList.all fun c ↦ c.isAlphanum || ['_', '.', ':', '-'].contains c

/-- `Number.isSafeInteger` of an integer. -/
def isSafeInstant (instant : ℤ) : Bool :=
  decide (-9007199254740991 ≤ instant) && decide (instant ≤ 9007199254740991)

/-- What is asked for. Numbers that are not integers are refused before Redis is asked. -/
structure AdmissionRequest where
  organizationId : String
  propertyId : String
  lane : AiAdmissionLane
  nowEpochMillis : ℤ
  headroom : Option ℤ
  backgroundDraftActorUserId : Option String
  deriving DecidableEq, Repr

namespace AdmissionRequest

variable (request : AdmissionRequest)

def headroomOrNone : ℤ := request.headroom.getD 0

/-- A draft is counted against an actor in the background lane only. -/
def validDraftActor : Bool :=
  match request.backgroundDraftActorUserId with
  | none => true
  | some actorUserId => decide (request.lane = .background) && isOrganizationId actorUserId

def minimumRateCap (lane : AiAdmissionLane) : ℕ :=
  min (ratePerMinute lane .global)
    (min (ratePerMinute lane (.organization "")) (ratePerMinute lane (.property "")))

/-- The tests before Redis is asked. -/
def isValid : Bool :=
  request.validDraftActor && isUuid request.propertyId && isOrganizationId request.organizationId &&
    isSafeInstant request.nowEpochMillis && decide (0 ≤ request.nowEpochMillis) &&
    isSafeInstant request.headroomOrNone && decide (0 ≤ request.headroomOrNone) &&
    decide (request.headroomOrNone < minimumRateCap request.lane)

def token (id : String) : AdmissionToken :=
  ⟨request.lane, request.propertyId, request.organizationId, id⟩

def limits : AdmissionLimits where
  rates := (admissionScopes request.organizationId request.propertyId).map fun scope ↦
    (.rate scope request.lane, ratePerMinute request.lane scope - request.headroomOrNone)
  inFlight := (admissionScopes request.organizationId request.propertyId).map fun scope ↦
    (.inFlight scope request.lane, inFlightCap request.lane scope)
  drafts := draftRateKeys request.organizationId request.backgroundDraftActorUserId

end AdmissionRequest

/-- The slots in flight a token holds. -/
def AdmissionToken.inFlightKeys (token : AdmissionToken) : List AdmissionKey :=
  (admissionScopes token.organizationId token.propertyId).map fun scope ↦
    .inFlight scope token.lane

/-- An admission, or why there is none. -/
inductive AiAdmissionClaim
  | ok (admissionId : AdmissionToken) (expiresAtEpochMillis : ℤ)
  | busy (retryAfterEpochMillis : ℤ)
  | unavailable
  deriving DecidableEq, Repr

/-- Acquire an admission under a new identity. -/
def acquire (store : AdmissionStore) (request : AdmissionRequest) (id : String) :
    AiAdmissionClaim × AdmissionStore :=
  if request.isValid = false ∨ isUuid id = false then (.unavailable, store)
  else
    match acquireScript store request.limits request.nowEpochMillis (request.token id) with
    | (.granted expires, store) =>
        if isSafeInstant expires = false ∨ expires < request.nowEpochMillis then
          (.unavailable, store)
        else (.ok (request.token id) (request.nowEpochMillis + leaseMillis), store)
    | (.denied retryAt, store) =>
        if isSafeInstant retryAt = false ∨ retryAt < request.nowEpochMillis then
          (.unavailable, store)
        else (.busy retryAt, store)

/-- Release an admission at an instant of Redis' clock. Texts that are no token are left alone. -/
def release (store : AdmissionStore) (token : AdmissionToken) (now : ℤ) : AdmissionStore :=
  if isUuid token.propertyId = false ∨ isUuid token.id = false ∨
      isOrganizationId token.organizationId = false then store
  else releaseScript store token.inFlightKeys now token

end ReputationKey.Ai
