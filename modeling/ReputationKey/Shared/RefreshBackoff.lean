import ReputationKey.Shared.RefreshSingleFlight
import Mathlib.Algebra.Ring.Int.Defs

/-!
# The shared backoff of failed refreshes

A failed refresh of a connection makes all replicas wait. One record in Redis holds how often the
refresh has failed in a row and when the next may start, and it expires when nothing fails for half
an hour. Follows `src/src/shared/google-provider-control/refresh-single-flight.ts:189–354`.
-/

namespace ReputationKey.Shared

/-! ## The scripts -/

/-- The hash of a connection, with the time its key expires. -/
structure BackoffRecord where
  binding : String
  failures : ℕ
  nextAllowedAtMs : ℤ
  expiresAt : ℤ
  deriving DecidableEq, Repr

/-- A key is gone once its time is past. -/
def liveRecord (nowMs : ℤ) (record : Option BackoffRecord) : Option BackoffRecord :=
  record.filter fun stored ↦ decide (nowMs ≤ stored.expiresAt)

/-- What a script returns. -/
structure ScriptReply where
  outcome : ℤ
  waitMs : ℤ
  failures : ℕ
  deriving DecidableEq, Repr

/-- `CHECK_REFRESH_BACKOFF_SCRIPT`. -/
def checkBackoffScript (binding : String) (nowMs : ℤ) (record : Option BackoffRecord) : ScriptReply :=
  let stored := liveRecord nowMs record
  if stored.any fun found ↦ decide (found.binding ≠ binding) then ⟨-2, 0, 0⟩
  else
    let nextAllowedAtMs := (stored.map (·.nextAllowedAtMs)).getD 0
    let failures := (stored.map (·.failures)).getD 0
    if nowMs < nextAllowedAtMs then ⟨0, nextAllowedAtMs - nowMs, failures⟩ else ⟨1, 0, failures⟩

/-- The wait of a failure: the longest of five seconds, the jitter under a cap that doubles with
each failure, and the advised delay. -/
def backoffDelayMs (failures : ℕ) (sample retryAfterMs : ℤ) : ℤ :=
  let capMs := min 300000 (5000 * 2 ^ (failures - 1))
  max 5000 (max (1 + sample % capMs) retryAfterMs)

/-- `FAIL_REFRESH_BACKOFF_SCRIPT`. -/
def failBackoffScript (binding : String) (nowMs sample retryAfterMs : ℤ)
    (record : Option BackoffRecord) : ScriptReply × Option BackoffRecord :=
  let stored := liveRecord nowMs record
  if stored.any fun found ↦ decide (found.binding ≠ binding) then (⟨-2, 0, 0⟩, record)
  else
    let failures := min 31 ((stored.map (·.failures)).getD 0 + 1)
    let delayMs := backoffDelayMs failures sample retryAfterMs
    (⟨1, delayMs, failures⟩,
      some ⟨binding, failures, nowMs + delayMs, nowMs + max 1800000 (delayMs * 2)⟩)

/-- `CLEAR_REFRESH_BACKOFF_SCRIPT`. -/
def clearBackoffScript (binding : String) (nowMs : ℤ) (record : Option BackoffRecord) :
    ℤ × Option BackoffRecord :=
  match liveRecord nowMs record with
  | none => (1, none)
  | some stored => if stored.binding ≠ binding then (-2, record) else (1, none)

/-! ## The coordinator -/

/-- `GoogleRefreshBackoffResult`. -/
inductive BackoffResult
  | ok (consecutiveFailures : ℕ)
  | backoffActive (retryAfterMs : ℤ)
  | unavailable
  | keyCollision
  deriving DecidableEq, Repr

/-- Whether a number is one a caller is answered with. -/
def isSafeCount (value : ℤ) : Bool := decide (0 ≤ value) && decide (value ≤ 9007199254740991)

/-- Follows `refresh-single-flight.ts:247–281`. -/
def checkRefreshBackoff (connectionFingerprint : String) (nowMs : ℤ)
    (record : Option BackoffRecord) : BackoffResult :=
  if isRefreshFingerprint connectionFingerprint = false then .unavailable
  else
    let reply := checkBackoffScript connectionFingerprint nowMs record
    if isSafeCount reply.waitMs = false ∨ 31 < reply.failures then .unavailable
    else if reply.outcome = -2 then .keyCollision
    else if reply.outcome = 1 then .ok reply.failures
    else if reply.outcome = 0 then .backoffActive reply.waitMs
    else .unavailable

/-- A sample and an advised delay that a failure is recorded with. -/
def isFailInput (sample : ℤ) (retryAfterMs : Option ℤ) : Bool :=
  decide (0 ≤ sample) && decide (sample ≤ 0xffffffff) &&
    retryAfterMs.all fun advised ↦ decide (1000 ≤ advised) && decide (advised ≤ 300000)

/-- Follows `refresh-single-flight.ts:282–336`. -/
def failRefreshBackoff (connectionFingerprint : String) (nowMs sample : ℤ) (retryAfterMs : Option ℤ)
    (record : Option BackoffRecord) : BackoffResult × Option BackoffRecord :=
  if isRefreshFingerprint connectionFingerprint = false ∨ isFailInput sample retryAfterMs = false then
    (.unavailable, record)
  else
    let (reply, written) :=
      failBackoffScript connectionFingerprint nowMs sample (retryAfterMs.getD 0) record
    let result :=
      if reply.outcome = -2 then .keyCollision
      else if reply.waitMs < 1 ∨ 300000 < reply.waitMs ∨ reply.failures < 1 ∨ 31 < reply.failures then
        .unavailable
      else if reply.outcome = 1 then .backoffActive reply.waitMs
      else .unavailable
    (result, written)

/-- Follows `refresh-single-flight.ts:337–352`. -/
def succeedRefreshBackoff (connectionFingerprint : String) (nowMs : ℤ)
    (record : Option BackoffRecord) : Bool × Option BackoffRecord :=
  if isRefreshFingerprint connectionFingerprint = false then (false, record)
  else
    let (outcome, written) := clearBackoffScript connectionFingerprint nowMs record
    (outcome == 1, written)

/-! ## Runs -/

/-- A call for one connection. -/
inductive BackoffCall
  | check
  | fail (sample : ℤ) (retryAfterMs : Option ℤ)
  | succeed
  deriving DecidableEq, Repr

/-- What a call came to. -/
inductive BackoffAnswer
  | result (result : BackoffResult)
  | cleared (done : Bool)
  deriving DecidableEq, Repr

/-- A call that was carried out. -/
structure BackoffEntry where
  nowMs : ℤ
  call : BackoffCall
  answer : BackoffAnswer
  deriving DecidableEq, Repr

/-- The record of a connection and the calls so far, the newest first. -/
structure BackoffRun where
  record : Option BackoffRecord
  log : List BackoffEntry
  deriving DecidableEq, Repr

/-- One call at a reading of the clock. -/
def BackoffRun.next (connectionFingerprint : String) (run : BackoffRun) (nowMs : ℤ) :
    BackoffCall → BackoffRun
  | .check =>
      ⟨run.record, ⟨nowMs, .check,
        .result (checkRefreshBackoff connectionFingerprint nowMs run.record)⟩ :: run.log⟩
  | .fail sample retryAfterMs =>
      let (result, written) :=
        failRefreshBackoff connectionFingerprint nowMs sample retryAfterMs run.record
      ⟨written, ⟨nowMs, .fail sample retryAfterMs, .result result⟩ :: run.log⟩
  | .succeed =>
      let (done, written) := succeedRefreshBackoff connectionFingerprint nowMs run.record
      ⟨written, ⟨nowMs, .succeed, .cleared done⟩ :: run.log⟩

/-- A failure that was recorded: when, and the wait it was answered with. -/
structure RecordedFail where
  nowMs : ℤ
  delayMs : ℤ
  deriving DecidableEq, Repr

/-- When the wait of a failure is over. -/
def RecordedFail.waitedAt (fail : RecordedFail) : ℤ := fail.nowMs + fail.delayMs

/-- The failures recorded since the last success, the newest first. -/
def failsSince : List BackoffEntry → List RecordedFail
  | [] => []
  | entry :: log =>
      match entry.call, entry.answer with
      | .fail _ _, .result (.backoffActive delayMs) => ⟨entry.nowMs, delayMs⟩ :: failsSince log
      | .succeed, .cleared true => []
      | _, _ => failsSince log

/-- The failures in a row at a reading: none once half an hour is past since the newest. -/
def failsInRow (nowMs : ℤ) : List RecordedFail → ℕ
  | [] => 0
  | fail :: earlier => if fail.nowMs + 1800000 < nowMs then 0 else failsInRow fail.nowMs earlier + 1


/-! ## What the record says -/

/-- The record that the failures since the last success leave. -/
def recordOf (connectionFingerprint : String) : List RecordedFail → Option BackoffRecord
  | [] => none
  | fail :: earlier =>
      some ⟨connectionFingerprint, min 31 (failsInRow fail.nowMs earlier + 1), fail.waitedAt,
        fail.nowMs + 1800000⟩

/-- The jitter is at least one millisecond and never over the cap, so that a wait lies between five
seconds and five minutes, and no advised delay is cut. -/
theorem backoffDelayMs_bounds (failures : ℕ) (sample retryAfterMs : ℤ) (advised : retryAfterMs ≤ 300000) :
    5000 ≤ backoffDelayMs failures sample retryAfterMs ∧
      backoffDelayMs failures sample retryAfterMs ≤ 300000 ∧
      retryAfterMs ≤ backoffDelayMs failures sample retryAfterMs := by
  have power : (0 : ℤ) < 2 ^ (failures - 1) := Int.pow_pos (by decide)
  have low : 0 < min (300000 : ℤ) (5000 * 2 ^ (failures - 1)) := by omega
  have high : min (300000 : ℤ) (5000 * 2 ^ (failures - 1)) ≤ 300000 := Int.min_le_left ..
  have jitter := Int.emod_lt_of_pos sample low
  simp only [backoffDelayMs]
  omega

/-- A record that a failure of this connection left is gone just when the row of failures is. -/
theorem liveRecord_recordOf (connectionFingerprint : String) (nowMs : ℤ) (fails : List RecordedFail) :
    liveRecord nowMs (recordOf connectionFingerprint fails) =
      if failsInRow nowMs fails = 0 then none else recordOf connectionFingerprint fails := by
  cases fails with
  | nil => rfl
  | cons fail earlier =>
      simp only [recordOf, liveRecord, failsInRow, Option.filter_some]
      by_cases past : fail.nowMs + 1800000 < nowMs
      · simp [past]
      · simp [past, Int.not_lt.1 past]

/-- The count that a script reads is that of the failures in a row. -/
theorem failures_liveRecord (connectionFingerprint : String) (nowMs : ℤ) (fails : List RecordedFail) :
    ((liveRecord nowMs (recordOf connectionFingerprint fails)).map (·.failures)).getD 0 =
      min 31 (failsInRow nowMs fails) := by
  cases fails with
  | nil => rfl
  | cons fail earlier =>
      rw [liveRecord_recordOf]
      by_cases past : fail.nowMs + 1800000 < nowMs
      · simp [failsInRow, past]
      · simp [failsInRow, past, recordOf]

/-- A record of a connection never belongs to another one. -/
theorem binding_liveRecord (connectionFingerprint : String) (nowMs : ℤ) (fails : List RecordedFail) :
    ((liveRecord nowMs (recordOf connectionFingerprint fails)).any fun found ↦
      decide (found.binding ≠ connectionFingerprint)) = false := by
  cases fails with
  | nil => rfl
  | cons fail earlier =>
      rw [liveRecord_recordOf]
      split <;> simp [recordOf]

/-! ## One call -/

/-- A failure that is recorded is answered with its wait, and its record takes the place of the one
before. -/
theorem failRefreshBackoff_recordOf (connectionFingerprint : String) (nowMs sample : ℤ)
    (retryAfterMs : Option ℤ) (fails : List RecordedFail)
    (fingerprint : isRefreshFingerprint connectionFingerprint = true)
    (input : isFailInput sample retryAfterMs = true) :
    ∃ delayMs : ℤ, 5000 ≤ delayMs ∧ delayMs ≤ 300000 ∧ (∀ advised ∈ retryAfterMs, advised ≤ delayMs) ∧
      failRefreshBackoff connectionFingerprint nowMs sample retryAfterMs
          (recordOf connectionFingerprint fails) =
        (.backoffActive delayMs, recordOf connectionFingerprint (⟨nowMs, delayMs⟩ :: fails)) := by
  have advised : retryAfterMs.getD 0 ≤ 300000 := by
    cases retryAfterMs with
    | none => decide
    | some value =>
        simp only [isFailInput, Option.all_some, Bool.and_eq_true, decide_eq_true_eq] at input
        exact input.2.2
  have count : min 31 (min 31 (failsInRow nowMs fails) + 1) = min 31 (failsInRow nowMs fails + 1) := by
    omega
  obtain ⟨low, high, kept⟩ :=
    backoffDelayMs_bounds (min 31 (failsInRow nowMs fails + 1)) sample (retryAfterMs.getD 0) advised
  refine ⟨_, low, high, ?_, ?_⟩
  · rintro value rfl
    exact kept
  · have longest : ∀ delayMs : ℤ, delayMs ≤ 300000 → max 1800000 (delayMs * 2) = 1800000 := by
      intro delayMs bound
      omega
    have counted : 1 ≤ min 31 (failsInRow nowMs fails + 1) := by omega
    simp only [failRefreshBackoff, failBackoffScript, fingerprint, input, binding_liveRecord,
      failures_liveRecord, count, longest _ high, Bool.true_eq_false, Bool.false_eq_true, or_self,
      if_false]
    rw [if_neg (by decide), if_neg (by omega)]
    rfl

/-- A success of this connection always clears. -/
theorem succeedRefreshBackoff_recordOf (connectionFingerprint : String) (nowMs : ℤ)
    (fails : List RecordedFail) (fingerprint : isRefreshFingerprint connectionFingerprint = true) :
    succeedRefreshBackoff connectionFingerprint nowMs (recordOf connectionFingerprint fails) =
      (true, none) := by
  have binding := binding_liveRecord connectionFingerprint nowMs fails
  simp only [succeedRefreshBackoff, clearBackoffScript, fingerprint, Bool.true_eq_false, if_false]
  cases stored : liveRecord nowMs (recordOf connectionFingerprint fails) with
  | none => rfl
  | some found =>
      rw [stored] at binding
      have same : found.binding = connectionFingerprint := by simpa using binding
      simp [same]

/-- What holds of a run: its record is what its failures leave, and every wait is within the bounds.
-/
structure BackoffRun.Kept (connectionFingerprint : String) (run : BackoffRun) : Prop where
  record : run.record = recordOf connectionFingerprint (failsSince run.log)
  waits : ∀ fail ∈ failsSince run.log, 5000 ≤ fail.delayMs ∧ fail.delayMs ≤ 300000

theorem BackoffRun.Kept.next {connectionFingerprint : String} {run : BackoffRun}
    (kept : run.Kept connectionFingerprint) (nowMs : ℤ) (call : BackoffCall) :
    (run.next connectionFingerprint nowMs call).Kept connectionFingerprint := by
  obtain ⟨record, waits⟩ := kept
  cases call with
  | check =>
      constructor
      · exact record
      · exact waits
  | fail sample retryAfterMs =>
      by_cases valid : isRefreshFingerprint connectionFingerprint = true ∧
          isFailInput sample retryAfterMs = true
      · obtain ⟨delayMs, low, high, -, answered⟩ := failRefreshBackoff_recordOf connectionFingerprint
          nowMs sample retryAfterMs (failsSince run.log) valid.1 valid.2
        rw [← record] at answered
        constructor
        · simp only [BackoffRun.next, answered, failsSince]
        · simp only [BackoffRun.next, answered, failsSince, List.forall_mem_cons]
          exact ⟨⟨low, high⟩, waits⟩
      · have refused : isRefreshFingerprint connectionFingerprint = false ∨
            isFailInput sample retryAfterMs = false := by
          simpa only [not_and_or, Bool.not_eq_true] using valid
        have answered : failRefreshBackoff connectionFingerprint nowMs sample retryAfterMs run.record =
            (.unavailable, run.record) := if_pos refused
        constructor
        · simpa only [BackoffRun.next, answered, failsSince] using record
        · simpa only [BackoffRun.next, answered, failsSince] using waits
  | succeed =>
      by_cases fingerprint : isRefreshFingerprint connectionFingerprint = true
      · have answered := succeedRefreshBackoff_recordOf connectionFingerprint nowMs
          (failsSince run.log) fingerprint
        rw [← record] at answered
        constructor
        · simp only [BackoffRun.next, answered, failsSince, recordOf]
        · simp [BackoffRun.next, answered, failsSince]
      · have answered : succeedRefreshBackoff connectionFingerprint nowMs run.record =
            (false, run.record) := if_pos (Bool.not_eq_true _ ▸ fingerprint)
        constructor
        · simpa only [BackoffRun.next, answered, failsSince] using record
        · simpa only [BackoffRun.next, answered, failsSince] using waits

end ReputationKey.Shared
