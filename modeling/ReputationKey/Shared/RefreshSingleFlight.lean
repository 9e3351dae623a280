import ReputationKey.Base.KeyedRecord
import ReputationKey.Base.Run
import ReputationKey.Shared.Uuid
import Mathlib.Data.Int.Notation

/-!
# The distributed single flight of a credential refresh

Runs on one connection compete for a lock in Redis. A run looks for a committed value, asks for the
lock under an owner it has just drawn, looks again under the lock, and only then refreshes. A timer
renews the lease in the background, and the refresh may assert leadership, which renews it too. Every
script is a remote call: it is sent, Redis carries it out, and its reply or an error comes back, each
at its own moment, and the lease may run out at any moment. Follows
`src/src/shared/google-provider-control/refresh-single-flight.ts`.
-/

namespace ReputationKey.Shared

open Base

/-! ## Redis -/

/-- The lock of a connection. -/
structure RefreshLock where
  owner : String
  expiresAt : ℤ
  deriving DecidableEq, Repr

/-- `SET key owner PX leaseMs NX`. -/
def setRefreshLock (leaseMs clock : ℤ) (owner : String) :
    Option RefreshLock → Bool × Option RefreshLock
  | some lock => (false, some lock)
  | none => (true, some ⟨owner, clock + leaseMs⟩)

/-- `RENEW_REFRESH_LOCK_SCRIPT`. -/
def renewRefreshLock (leaseMs clock : ℤ) (owner : String) :
    Option RefreshLock → Bool × Option RefreshLock
  | some lock =>
      if lock.owner = owner then (true, some { lock with expiresAt := clock + leaseMs })
      else (false, some lock)
  | none => (false, none)

/-- `RELEASE_REFRESH_LOCK_SCRIPT`. -/
def releaseRefreshLock (owner : String) : Option RefreshLock → Option RefreshLock
  | some lock => if lock.owner = owner then none else some lock
  | none => none

/-! ## The parties -/

/-- The lease and the pause between two attempts, within the bounds that are checked. -/
structure RefreshCoordinationConfig where
  leaseMs : ℤ
  pollMs : ℤ
  valid : 1000 ≤ leaseMs ∧ leaseMs ≤ 30000 ∧ 10 ≤ pollMs ∧ pollMs ≤ 1000

/-- `createRedisDistributedRefreshSingleFlight`: other numbers are refused. -/
def createRefreshSingleFlight (leaseMs pollMs : Option ℤ) : Option RefreshCoordinationConfig :=
  if valid : 1000 ≤ leaseMs.getD 20000 ∧ leaseMs.getD 20000 ≤ 30000 ∧ 10 ≤ pollMs.getD 50 ∧
      pollMs.getD 50 ≤ 1000 then
    some ⟨leaseMs.getD 20000, pollMs.getD 50, valid⟩
  else none

/-- `REFRESH_FINGERPRINT`. -/
def isRefreshFingerprint (text : String) : Bool := isHex 64 text.toList

/-- `REFRESH_OWNER`. -/
def isRefreshOwner (text : String) : Bool :=
  decide (16 ≤ text.length) && decide (text.length ≤ 128) &&
    text.toList.all fun c ↦ c.isAlphanum || c = '_' || c = '-'

/-- Why a run is rejected; `callback` is what `loadLatest` or `refresh` threw. -/
inductive RefreshFailure (ε : Type)
  | requestInvalid
  | ownerInvalid
  | coordinationUnavailable
  | deadlineExceeded
  | leadershipLost
  | callback (error : ε)
  deriving DecidableEq, Repr

/-- Where a run stands. -/
inductive RefreshPhase (τ ε : Type)
  | looking
  | acquiring (owner : String)
  | holding (owner : String)
  | refreshing (owner : String)
  | releasing (owner : String) (result : Except (RefreshFailure ε) τ)
  | finished (result : Except (RefreshFailure ε) τ)

/-- The timer of a run is set from its acquisition until its refresh ends. -/
def RefreshPhase.hasTimer {τ ε : Type} : RefreshPhase τ ε → Bool
  | .holding _ => true
  | .refreshing _ => true
  | _ => false

/-- What the renewals of a run share, from the moment it has the lock. -/
structure RefreshLeadership where
  owner : String
  leadershipLost : Bool
  renewalInFlight : Bool
  given : Bool
  deriving DecidableEq, Repr

/-- A run; `firstLook` is how many values were committed when it first looked. -/
structure RefreshRun (τ ε : Type) where
  deadlineMs : ℤ
  phase : RefreshPhase τ ε
  leadership : Option RefreshLeadership
  firstLook : Option ℕ

/-- The requests made under an owner: the `SET`, and the release. `commitsBefore` is how many values
were committed when Redis answered the `SET`. -/
structure LockAttempt where
  run : ℕ
  answer : Option Bool
  commitsBefore : ℕ
  releaseRequested : Bool
  released : Bool
  deriving DecidableEq, Repr

inductive RenewOutcome
  | renewed
  | leadershipLost
  | coordinationUnavailable
  deriving DecidableEq, Repr

/-- A call of `renew`: by the refresh, as `assertLeadership`, or by the timer. -/
structure RenewCall where
  run : ℕ
  owner : String
  assertion : Bool
  sent : Bool
  renewed : Option Bool
  outcome : Option RenewOutcome
  deriving DecidableEq, Repr

/-- A value that a refresh committed. -/
structure CommittedRefresh (τ : Type) where
  run : ℕ
  position : ℕ
  value : τ

/-- Redis, the requests under way, the runs, and the committed value that is current. -/
structure RefreshState (τ ε : Type) where
  lock : Option RefreshLock
  attempts : KeyedRecord String LockAttempt
  calls : KeyedRecord ℕ RenewCall
  runs : KeyedRecord ℕ (RefreshRun τ ε)
  commits : ℕ
  current : Option (CommittedRefresh τ)

/-- What happens next. -/
inductive RefreshEvent (τ ε : Type)
  | start (run : ℕ) (connectionFingerprint : String) (deadlineMs : ℤ)
  | look (run : ℕ) (nowMs : ℤ) (latest : Except ε (Option τ)) (owner : String)
  | executeSet (owner : String) (clock : ℤ)
  | acquireReply (run : ℕ)
  | acquireError (run : ℕ)
  | lookAgain (run : ℕ) (committed : Except ε (Option τ))
  | commit (run : ℕ) (value : τ)
  | refreshed (run : ℕ) (result : Except (RefreshFailure ε) τ)
  | supersede
  | assertLeadership (run call : ℕ)
  | renewalTimer (run call : ℕ)
  | executeRenew (call : ℕ) (clock : ℤ)
  | renewReply (call : ℕ)
  | renewError (call : ℕ)
  | executeRelease (owner : String)
  | releaseSettled (run : ℕ)
  | expire

/-! ## Steps -/

namespace RefreshState

variable {τ ε : Type} (config : RefreshCoordinationConfig) (s : RefreshState τ ε)

def setRun (run : ℕ) (r : RefreshRun τ ε) : RefreshState τ ε :=
  { s with runs := s.runs.set run r }

/-- A run is started, or its request is refused. -/
def start (run : ℕ) (connectionFingerprint : String) (deadlineMs : ℤ) :
    Option (RefreshState τ ε) :=
  if (s.runs run).isSome then none
  else
    some (s.setRun run
      { deadlineMs := deadlineMs
        phase := if isRefreshFingerprint connectionFingerprint then .looking
          else .finished (.error .requestInvalid)
        leadership := none
        firstLook := none })

/-- The head of the loop: the deadline, `loadLatest`, a fresh owner, and the `SET` is sent. -/
def look (run : ℕ) (nowMs : ℤ) (latest : Except ε (Option τ)) (owner : String) :
    Option (RefreshState τ ε) :=
  match s.runs run with
  | some ⟨deadlineMs, .looking, leadership, firstLook⟩ =>
      if deadlineMs ≤ nowMs then
        some (s.setRun run ⟨deadlineMs, .finished (.error .deadlineExceeded), leadership, firstLook⟩)
      else
        let firstLook := some (firstLook.getD s.commits)
        match latest with
        | .error error =>
            some (s.setRun run
              ⟨deadlineMs, .finished (.error (.callback error)), leadership, firstLook⟩)
        | .ok (some value) =>
            some (s.setRun run ⟨deadlineMs, .finished (.ok value), leadership, firstLook⟩)
        | .ok none =>
            if isRefreshOwner owner = false then
              some (s.setRun run
                ⟨deadlineMs, .finished (.error .ownerInvalid), leadership, firstLook⟩)
            else
              some { s.setRun run ⟨deadlineMs, .acquiring owner, leadership, firstLook⟩ with
                attempts := s.attempts.set owner ⟨run, none, 0, false, false⟩ }
  | _ => none

/-- Redis carries out a `SET`. -/
def executeSet (owner : String) (clock : ℤ) : Option (RefreshState τ ε) :=
  match s.attempts owner with
  | some ⟨run, none, _, releaseRequested, released⟩ =>
      let (answer, lock) := setRefreshLock config.leaseMs clock owner s.lock
      some { s with
        lock := lock
        attempts := s.attempts.set owner
          ⟨run, some answer, s.commits, releaseRequested, released⟩ }
  | _ => none

/-- The answer to the `SET` comes back: the run has the lock, or pauses and looks again. -/
def acquireReply (run : ℕ) : Option (RefreshState τ ε) :=
  match s.runs run with
  | some ⟨deadlineMs, .acquiring owner, leadership, firstLook⟩ =>
      match (s.attempts owner).bind (·.answer) with
      | some true =>
          some (s.setRun run
            ⟨deadlineMs, .holding owner, some ⟨owner, false, false, false⟩, firstLook⟩)
      | some false => some (s.setRun run ⟨deadlineMs, .looking, leadership, firstLook⟩)
      | none => none
  | _ => none

/-- The `SET` fails, carried out or not. -/
def acquireError (run : ℕ) : Option (RefreshState τ ε) :=
  match s.runs run with
  | some ⟨deadlineMs, .acquiring _, leadership, firstLook⟩ =>
      some (s.setRun run
        ⟨deadlineMs, .finished (.error .coordinationUnavailable), leadership, firstLook⟩)
  | _ => none

/-- The `finally` of a run that has the lock: the timer is cleared and the release is sent. -/
def conclude (run : ℕ) (r : RefreshRun τ ε) (owner : String)
    (result : Except (RefreshFailure ε) τ) : RefreshState τ ε :=
  { s.setRun run { r with phase := .releasing owner result } with
    attempts := s.attempts.modify owner fun attempt ↦
      attempt.map fun a ↦ { a with releaseRequested := true } }

/-- The second look, under the lock. -/
def lookAgain (run : ℕ) (committed : Except ε (Option τ)) : Option (RefreshState τ ε) :=
  match s.runs run with
  | some ⟨deadlineMs, .holding owner, leadership, firstLook⟩ =>
      match committed with
      | .error error =>
          some (s.conclude run ⟨deadlineMs, .holding owner, leadership, firstLook⟩ owner
            (.error (.callback error)))
      | .ok (some value) =>
          some (s.conclude run ⟨deadlineMs, .holding owner, leadership, firstLook⟩ owner (.ok value))
      | .ok none =>
          some (s.setRun run
            ⟨deadlineMs, .refreshing owner, leadership.map fun l ↦ { l with given := true },
              firstLook⟩)
  | _ => none

/-- A refresh commits a value. -/
def commit (run : ℕ) (value : τ) : Option (RefreshState τ ε) :=
  match s.runs run with
  | some ⟨_, .refreshing _, _, _⟩ =>
      some { s with commits := s.commits + 1, current := some ⟨run, s.commits, value⟩ }
  | _ => none

/-- A refresh ends. -/
def refreshed (run : ℕ) (result : Except (RefreshFailure ε) τ) : Option (RefreshState τ ε) :=
  match s.runs run with
  | some ⟨deadlineMs, .refreshing owner, leadership, firstLook⟩ =>
      some (s.conclude run ⟨deadlineMs, .refreshing owner, leadership, firstLook⟩ owner result)
  | _ => none

/-- The refresh calls `renew`, which is not sent once leadership is lost. -/
def assertLeadership (run call : ℕ) : Option (RefreshState τ ε) :=
  match s.runs run, s.calls call with
  | some ⟨_, _, some ⟨owner, leadershipLost, _, true⟩, _⟩, none =>
      some { s with
        calls := s.calls.set call
          (if leadershipLost then ⟨run, owner, true, false, none, some .leadershipLost⟩
            else ⟨run, owner, true, true, none, none⟩) }
  | _, _ => none

/-- The timer of a run calls `renew`, one call at a time. -/
def renewalTimer (run call : ℕ) : Option (RefreshState τ ε) :=
  match s.runs run, s.calls call with
  | some ⟨deadlineMs, phase, some ⟨owner, false, false, given⟩, firstLook⟩, none =>
      if phase.hasTimer then
        some { s.setRun run ⟨deadlineMs, phase, some ⟨owner, false, true, given⟩, firstLook⟩ with
          calls := s.calls.set call ⟨run, owner, false, true, none, none⟩ }
      else none
  | _, _ => none

/-- Redis carries out a renewal. -/
def executeRenew (call : ℕ) (clock : ℤ) : Option (RefreshState τ ε) :=
  match s.calls call with
  | some ⟨run, owner, assertion, true, none, outcome⟩ =>
      let (renewed, lock) := renewRefreshLock config.leaseMs clock owner s.lock
      some { s with
        lock := lock
        calls := s.calls.set call ⟨run, owner, assertion, true, some renewed, outcome⟩ }
  | _ => none

/-- A call of `renew` ends; one that fails loses leadership. -/
def settleCall (call : ℕ) (c : RenewCall) (outcome : RenewOutcome) : RefreshState τ ε :=
  { s with
    calls := s.calls.set call { c with outcome := some outcome }
    runs := s.runs.modify c.run fun run ↦ run.map fun r ↦
      { r with
        leadership := r.leadership.map fun l ↦
          { l with
            leadershipLost := l.leadershipLost || decide (outcome ≠ .renewed)
            renewalInFlight := l.renewalInFlight && c.assertion } } }

/-- The reply to a renewal comes back. -/
def renewReply (call : ℕ) : Option (RefreshState τ ε) :=
  match s.calls call with
  | some ⟨run, owner, assertion, sent, some renewed, none⟩ =>
      some (s.settleCall call ⟨run, owner, assertion, sent, some renewed, none⟩
        (if renewed then .renewed else .leadershipLost))
  | _ => none

/-- A renewal fails, carried out or not. -/
def renewError (call : ℕ) : Option (RefreshState τ ε) :=
  match s.calls call with
  | some ⟨run, owner, assertion, true, renewed, none⟩ =>
      some (s.settleCall call ⟨run, owner, assertion, true, renewed, none⟩ .coordinationUnavailable)
  | _ => none

/-- Redis carries out a release. -/
def executeRelease (owner : String) : Option (RefreshState τ ε) :=
  match s.attempts owner with
  | some ⟨run, answer, commitsBefore, true, false⟩ =>
      some { s with
        lock := releaseRefreshLock owner s.lock
        attempts := s.attempts.set owner ⟨run, answer, commitsBefore, true, true⟩ }
  | _ => none

/-- The release has an answer or an error, and the run ends as it would. -/
def releaseSettled (run : ℕ) : Option (RefreshState τ ε) :=
  match s.runs run with
  | some ⟨deadlineMs, .releasing _ result, leadership, firstLook⟩ =>
      some (s.setRun run ⟨deadlineMs, .finished result, leadership, firstLook⟩)
  | _ => none

/-- One step; none for an event that cannot happen here. -/
def step : RefreshEvent τ ε → Option (RefreshState τ ε)
  | .start run connectionFingerprint deadlineMs => s.start run connectionFingerprint deadlineMs
  | .look run nowMs latest owner => s.look run nowMs latest owner
  | .executeSet owner clock => s.executeSet config owner clock
  | .acquireReply run => s.acquireReply run
  | .acquireError run => s.acquireError run
  | .lookAgain run committed => s.lookAgain run committed
  | .commit run value => s.commit run value
  | .refreshed run result => s.refreshed run result
  | .supersede => some { s with current := none }
  | .assertLeadership run call => s.assertLeadership run call
  | .renewalTimer run call => s.renewalTimer run call
  | .executeRenew call clock => s.executeRenew config call clock
  | .renewReply call => s.renewReply call
  | .renewError call => s.renewError call
  | .executeRelease owner => s.executeRelease owner
  | .releaseSettled run => s.releaseSettled run
  | .expire => some { s with lock := none }

end RefreshState

/-- An owner is drawn that was never drawn before. -/
def RefreshEvent.Fresh {τ ε : Type} (s : RefreshState τ ε) : RefreshEvent τ ε → Prop
  | .look _ _ _ owner => s.attempts owner = none
  | _ => True

/-- Any number of runs on one connection, interleaved in any way. -/
def refreshSystem (τ ε : Type) (config : RefreshCoordinationConfig) :
    ReadSystem (RefreshState τ ε) (RefreshEvent τ ε) where
  init s := s = ⟨none, KeyedRecord.empty, KeyedRecord.empty, KeyedRecord.empty, 0, none⟩
  step _ s e s' := e.Fresh s ∧ s.step config e = some s'

end ReputationKey.Shared
