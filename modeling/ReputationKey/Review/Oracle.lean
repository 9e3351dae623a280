import ReputationKey.Review.Rows

/-!
# The hand-written reply workflow

The oracle the repository's model tests hold the production rules to: the legal reply states, what
each manager command does from a state, what each publication event does, and what a withdrawal and
a guest edit leave. Statuses, publication states and failure classes are the words production uses;
the reserved state `requested` has no move. Follows
`src/src/contexts/review/domain/__fixtures__/reply-workflow-oracle.ts:33–636`.
-/

namespace ReputationKey.Review.Oracle

/-- Whose the text is: a manager's, or the unedited text of an adopted AI suggestion. -/
inductive OracleAuthorship
  | human
  | aiAssisted
  deriving DecidableEq, Repr

/-- A reply as the workflow sees it. -/
structure OracleReply where
  status : ReplyStatus
  publication : PublicationStateInput
  lastFailure : Option PublicationFailureClass
  cycle : Nat
  attempts : Nat
  text : Text
  authorship : OracleAuthorship
  deriving DecidableEq, Repr

/-- A review's internal reply, if it has one. -/
abbrev OracleState := Option OracleReply

/-- Every status and publication state a reply may be in. -/
def legalReplyStates : List (ReplyStatus × PublicationStateInput) :=
  [(.draft, none), (.draft, some .cancelled), (.pendingApproval, none),
    (.pendingApproval, some .cancelled), (.rejected, none), (.rejected, some .cancelled),
    (.approved, some .authorized), (.approved, some .sending),
    (.approved, some .pendingObservation), (.published, some .published),
    (.publishFailed, some .terminal), (.publishFailed, some .ambiguous)]

/-- Whether a reply is in a legal state. -/
def isLegalReplyState (reply : OracleReply) : Bool :=
  legalReplyStates.any fun state ↦
    state.1 == reply.status && state.2 == reply.publication

/-! ## Manager commands -/

/-- A reply as a manager's screen shows it. -/
structure ReplyOnScreen where
  id : Nat
  revision : Nat
  deriving DecidableEq, Repr

/-- What a manager may ask for. -/
inductive ManagerCommand
  | draft (text : Text)
  | adoptAi (text : Text)
  | submit
  | approve (onScreen : ReplyOnScreen)
  | reject
  | retry
  | edit (text : Text)
  | delete
  deriving DecidableEq, Repr

/-- Why a command is refused. -/
inductive Refusal
  | replyNotFound
  | invalidTransition
  | invalidReply
  | aiSuggestionStale
  deriving DecidableEq, Repr

/-- The move a command makes, or its refusal. -/
abbrev ManagerVerdict := Except Refusal OracleState

/-- What a verdict depends on beyond the reply itself. -/
structure CommandEvidence where
  provablyNeverSent : Bool
  aiBindingCurrent : Bool
  aiInputsCurrent : Bool
  textClaimedBefore : Bool
  stored : Option ReplyOnScreen
  deriving DecidableEq, Repr

/-- Unedited AI text whose binding is no longer current. -/
def staleAiText (reply : OracleReply) (evidence : CommandEvidence) : Bool :=
  reply.authorship == .aiAssisted && !evidence.aiBindingCurrent

/-- The confirmation names the reply that is stored, as it is stored. -/
def namesTheStoredReply (onScreen : ReplyOnScreen) (evidence : CommandEvidence) : Bool :=
  evidence.stored.any fun stored ↦
    onScreen.id == stored.id && onScreen.revision == stored.revision

/-- No publication cycle is open and none ended. -/
def outsidePublication (reply : OracleReply) : Bool :=
  reply.publication == none || reply.publication == some .cancelled

/-- Google may or may not have the reply. -/
def outcomeUnknown (reply : OracleReply) : Bool :=
  reply.status == .publishFailed &&
    (reply.publication == some .ambiguous ||
      (reply.publication == some .terminal && reply.lastFailure == some .ambiguous))

/-- A manager confirms the reply: a new cycle, nothing claimed yet. -/
def authorized (reply : OracleReply) (authorship : OracleAuthorship) (text : Text) : OracleReply :=
  { status := .approved
    publication := some .authorized
    lastFailure := none
    cycle := reply.cycle + 1
    attempts := 0
    text := text
    authorship := authorship }

/-- A reply never put forward. -/
def newDraft (text : Text) (authorship : OracleAuthorship) : OracleReply :=
  { status := .draft
    publication := none
    lastFailure := none
    cycle := 0
    attempts := 0
    text := text
    authorship := authorship }

/-- Only an unsubmitted reply is rewritten. -/
def draftVerdict (state : OracleState) (text : Text) : ManagerVerdict :=
  match state with
  | none => .ok (some (newDraft text .human))
  | some reply =>
      if (reply.status = .draft ∨ reply.status = .rejected) ∧ outsidePublication reply then
        .ok (some { reply with status := .draft, text := text, authorship := .human })
      else .error .invalidTransition

/-- A suggestion replaces only an unsubmitted reply. -/
def adoptVerdict (state : OracleState) (text : Text) : ManagerVerdict :=
  match state with
  | none => .ok (some (newDraft text .aiAssisted))
  | some reply =>
      if reply.status = .draft ∨ reply.status = .rejected then
        .ok (some { reply with status := .draft, text := text, authorship := .aiAssisted })
      else .error .aiSuggestionStale

/-- A draft with text is handed to an approver. -/
def submitVerdict (reply : OracleReply) (evidence : CommandEvidence) : ManagerVerdict :=
  if reply.status ≠ .draft ∨ !outsidePublication reply then .error .invalidTransition
  else if reply.text = [] then .error .invalidReply
  else if staleAiText reply evidence then .error .aiSuggestionStale
  else .ok (some { reply with status := .pendingApproval })

/-- A reply reaches Google only after a manager confirmed the one they read. -/
def approveVerdict (reply : OracleReply) (onScreen : ReplyOnScreen)
    (evidence : CommandEvidence) : ManagerVerdict :=
  if reply.status ≠ .pendingApproval ∨ !outsidePublication reply then .error .invalidTransition
  else if !namesTheStoredReply onScreen evidence then .error .invalidTransition
  else if staleAiText reply evidence then .error .aiSuggestionStale
  else .ok (some (authorized reply reply.authorship reply.text))

/-- An approver can always send a reply back. -/
def rejectVerdict (reply : OracleReply) : ManagerVerdict :=
  if reply.status = .pendingApproval ∧ outsidePublication reply then
    .ok (some { reply with status := .rejected })
  else .error .invalidTransition

/-- Trying again changes no text; an attempt of unknown outcome is sent again only on evidence that
it never left. -/
def retryVerdict (reply : OracleReply) (evidence : CommandEvidence) : ManagerVerdict :=
  if reply.status = .published ∧ reply.publication = some .published then .ok (some reply)
  else if reply.status ≠ .publishFailed then .error .invalidTransition
  else
    let retried : ManagerVerdict := .ok (some (authorized reply reply.authorship reply.text))
    if outcomeUnknown reply then
      if evidence.provablyNeverSent then retried else .error .invalidTransition
    else if reply.publication = some .terminal then retried
    else .error .invalidTransition

/-- A published reply is edited into a new cycle; the same text changes nothing. -/
def editVerdict (reply : OracleReply) (text : Text) : ManagerVerdict :=
  if reply.status ≠ .published ∨ reply.publication ≠ some .published then
    .error .invalidTransition
  else if text = reply.text then .ok (some reply)
  else .ok (some (authorized reply .human text))

/-- A reply that was ever authorized is kept with its record. -/
def deleteVerdict (reply : OracleReply) : ManagerVerdict :=
  if (reply.status = .draft ∨ reply.status = .rejected) ∧ reply.publication = none ∧
      reply.cycle = 0 then .ok none
  else .error .invalidTransition

/-- What a reply command must do from a state. -/
def managerVerdict (state : OracleState) (command : ManagerCommand)
    (evidence : CommandEvidence) : ManagerVerdict :=
  match command, state with
  | .draft text, state => draftVerdict state text
  | .adoptAi text, state => adoptVerdict state text
  | _, none => .error .replyNotFound
  | .submit, some reply => submitVerdict reply evidence
  | .approve onScreen, some reply => approveVerdict reply onScreen evidence
  | .reject, some reply => rejectVerdict reply
  | .retry, some reply => retryVerdict reply evidence
  | .edit text, some reply => editVerdict reply text
  | .delete, some reply => deleteVerdict reply

/-! ## Publication events -/

/-- What the worker, the sweep, a read of Google and a policy do to a publication. -/
inductive PublicationEvent
  | cancel
  | claim
  | providerAccepted
  | requeue
  | failNotSent
  | failRejected
  | failUnknown
  | confirm
  | settleUnclaimed
  | settleNeverSent
  | endChecks
  | supersede
  deriving DecidableEq, Repr

/-- A cycle that ended without a reply on Google. -/
def failed (reply : OracleReply) (lastFailure : PublicationFailureClass) : OracleReply :=
  { reply with
    status := .publishFailed, publication := some .terminal, lastFailure := some lastFailure }

/-- A cycle that was taken back. -/
def cancelled (reply : OracleReply) : OracleReply :=
  { reply with status := .draft, publication := some .cancelled }

/-- Whether a reply has a status and one of some publication states. -/
def isIn (reply : OracleReply) (status : ReplyStatus)
    (publications : List PersistedPublicationState) : Bool :=
  reply.status == status && reply.publication.any publications.contains

/-- Whether a worker may take the reply's cycle and write to Google. -/
def mayBeClaimed (reply : OracleReply) (evidence : CommandEvidence) : Bool :=
  isIn reply .approved [.authorized] &&
    (!staleAiText reply evidence || (evidence.textClaimedBefore && evidence.aiInputsCurrent))

/-- The reply after an event, or `none` when the event does not apply to it. -/
def afterPublicationEvent (reply : OracleReply) : PublicationEvent → Option OracleReply
  | .cancel =>
      if isIn reply .approved [.authorized, .sending] then some (cancelled reply) else none
  | .claim =>
      if isIn reply .approved [.authorized] then
        some { reply with publication := some .sending, attempts := reply.attempts + 1 }
      else none
  | .providerAccepted =>
      if isIn reply .approved [.sending] then
        some { reply with publication := some .pendingObservation }
      else none
  | .requeue =>
      if isIn reply .approved [.sending] then some { reply with publication := some .authorized }
      else none
  | .failNotSent =>
      if isIn reply .approved [.sending] then some (failed reply .retryable) else none
  | .failRejected =>
      if isIn reply .approved [.sending] then some (failed reply .terminalRejection) else none
  | .failUnknown =>
      if isIn reply .approved [.sending, .pendingObservation] then
        some { reply with
          status := .publishFailed
          publication := some .ambiguous
          lastFailure := some .ambiguous }
      else none
  | .confirm =>
      if isIn reply .approved [.sending, .pendingObservation] || outcomeUnknown reply then
        some { reply with status := .published, publication := some .published }
      else none
  | .settleUnclaimed =>
      if isIn reply .approved [.authorized] then some (failed reply .retryable) else none
  | .settleNeverSent =>
      if isIn reply .approved [.sending] || outcomeUnknown reply then
        some (failed reply .retryable)
      else none
  | .endChecks =>
      if isIn reply .publishFailed [.ambiguous] then some (failed reply .ambiguous) else none
  | .supersede =>
      if isIn reply .approved [.authorized, .sending, .pendingObservation] ||
          outcomeUnknown reply then
        some { cancelled reply with lastFailure := none }
      else none

/-! ## Withdrawn AI text and guest edits -/

/-- What a withdrawal leaves of a reply a manager once confirmed. -/
def withdrawn (reply : OracleReply) : OracleReply :=
  { reply with
    status := .draft
    publication := some .cancelled
    lastFailure := none
    text := []
    authorship := .human }

/-- A worker found AI text it may not send. -/
def afterRefusedClaim (reply : OracleReply) : Option OracleReply :=
  if isIn reply .approved [.authorized] ∧ reply.authorship = .aiAssisted then
    some (withdrawn reply)
  else none

/-- Which AI-assisted replies one run of the purge reaches. -/
inductive AiDraftPurgeScope
  | everyAiReply
  | repliesPastTheirWindow
  deriving DecidableEq, Repr

/-- Confirmed once, and nothing of its current cycle has left RepKey. -/
def confirmedAndNotDispatched (reply : OracleReply) : Bool :=
  isIn reply .approved [.authorized] ||
    (reply.publication == some .cancelled &&
      (reply.status == .draft || reply.status == .pendingApproval || reply.status == .rejected))

/-- The reply after the AI draft purge ran for it. -/
def afterAiDraftPurge (state : OracleState) (scope : AiDraftPurgeScope) (pastItsWindow : Bool) :
    OracleState :=
  match state with
  | none => none
  | some reply =>
      if reply.authorship ≠ .aiAssisted then some reply
      else if scope = .repliesPastTheirWindow ∧ !pastItsWindow then some reply
      else if reply.publication = none then none
      else if confirmedAndNotDispatched reply then some (withdrawn reply)
      else some reply

/-- What a guest edit does to a reply a manager wrote and put forward before it, or `none` when it
leaves the reply as it is. -/
def afterGuestEdit (reply : OracleReply) : Option OracleReply :=
  if reply.authorship ≠ .human then none
  else if reply.status = .pendingApproval ∧ outsidePublication reply then
    some { reply with status := .draft }
  else if reply.status = .publishFailed ∧ reply.publication = some .terminal then
    some { cancelled reply with lastFailure := none }
  else none

/-- Whether a guest edit also closes the last attempt of the reply it takes back. -/
def guestEditClosesTheAttempt (reply : OracleReply) : Bool :=
  (afterGuestEdit reply).isSome && outcomeUnknown reply

end ReputationKey.Review.Oracle
