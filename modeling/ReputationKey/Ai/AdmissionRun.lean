import ReputationKey.Ai.AdmissionBook
import ReputationKey.Base.Run

/-!
# Runs of acquire and release calls

The calls of any number of lanes, organizations, properties and drafting actors on one Redis, and the
proof that the book explains every answer of a run.
-/

namespace ReputationKey.Ai

open Base Shared

/-! ## Runs -/

/-- A call: an admission asked for under a new identity, or one given back at an instant. -/
inductive AdmissionEvent
  | acquire (request : AdmissionRequest) (id : String)
  | release (token : AdmissionToken) (now : ℤ)
  deriving DecidableEq, Repr

/-- The clock reading of a call. -/
def AdmissionEvent.now : AdmissionEvent → ℤ
  | .acquire request _ => request.nowEpochMillis
  | .release _ now => now

/-- The lane of a call. -/
def AdmissionEvent.lane : AdmissionEvent → AiAdmissionLane
  | .acquire request _ => request.lane
  | .release token _ => token.lane

/-- Redis, with the book of what the scripts granted and freed and the last reading. -/
structure AdmissionState where
  store : AdmissionStore
  book : AdmissionBook
  clock : ℤ

/-- The script is asked, and grants. -/
def grants (store : AdmissionStore) (request : AdmissionRequest) (id : String) : Bool :=
  request.isValid && isUuid id &&
    match (acquireScript store request.limits request.nowEpochMillis (request.token id)).1 with
    | .granted _ => true
    | .denied _ => false

/-- The script is asked, and finds the lease. -/
def frees (store : AdmissionStore) (token : AdmissionToken) (now : ℤ) : Bool :=
  isUuid token.propertyId && isUuid token.id && isOrganizationId token.organizationId &&
    (store.leases token).any fun expiresAt ↦ decide (now ≤ expiresAt)

/-- The state after a call. -/
def AdmissionState.next (s : AdmissionState) : AdmissionEvent → AdmissionState
  | .acquire request id =>
      { store := (acquire s.store request id).2
        book :=
          if grants s.store request id then
            { s.book with grants := AdmissionBook.admission request id :: s.book.grants }
          else s.book
        clock := request.nowEpochMillis }
  | .release token now =>
      { store := release s.store token now
        book :=
          if frees s.store token now then
            { s.book with released := token :: s.book.released }
          else s.book
        clock := now }

/-- The identity of an acquire call is new. -/
def AdmissionEvent.IsFresh (book : AdmissionBook) : AdmissionEvent → Prop
  | .acquire _ id => ∀ a ∈ book.grants, a.token.id ≠ id
  | .release _ _ => True

/-- Calls whose clock readings never go back, from an empty Redis on. -/
def admissionSystem : ReadSystem AdmissionState AdmissionEvent where
  init s := s.store = ⟨KeyedRecord.empty, KeyedRecord.empty⟩ ∧ s.book = ⟨[], []⟩
  step _ s e s' := s.clock ≤ e.now ∧ e.IsFresh s.book ∧ s' = s.next e

/-! ## The book explains the store -/

/-- What a granted admission was asked with. -/
structure Admission.WellFormed (a : Admission) : Prop where
  propertyId : isUuid a.token.propertyId = true
  organizationId : isOrganizationId a.token.organizationId = true
  id : isUuid a.token.id = true
  actor : a.actorUserId.isSome → a.token.lane = .background

/-- The book explains Redis at an instant. -/
structure Explains (store : AdmissionStore) (book : AdmissionBook) (clock : ℤ) : Prop where
  sets : ∀ key, Holds book clock key (store.sets key)
  leases : ∀ token expiresAt, store.leases token = some expiresAt ↔
    ∃ a ∈ book.grants, a.token = token ∧ token ∉ book.released ∧
      expiresAt = a.instant + leaseMillis
  past : ∀ a ∈ book.grants, a.instant ≤ clock
  ordered : book.grants.Pairwise fun a b ↦ b.instant ≤ a.instant
  distinct : (book.grants.map (·.token)).Nodup
  granted : ∀ token ∈ book.released, ∃ a ∈ book.grants, a.token = token
  wellFormed : ∀ a ∈ book.grants, a.WellFormed

namespace Explains

variable {store : AdmissionStore} {book : AdmissionBook} {clock now : ℤ}

theorem weaken (h : Explains store book clock) (hle : clock ≤ now) : Explains store book now :=
  { h with
    sets := fun key ↦ (h.sets key).weaken hle
    past := fun a mem ↦ le_trans (h.past a mem) hle }

/-- Every key counts in Redis what it counts in the book. -/
theorem scores_eq (h : Explains store book now) (key : AdmissionKey) :
    store.scores now key = (book.current now key).map fun a ↦ key.score a.instant := by
  rw [AdmissionStore.scores, (h.sets key).live_current (le_refl now), List.map_map]
  rfl

theorem reply_eq {request : AdmissionRequest} (h : Explains store book request.nowEpochMillis) :
    admissionReply request.limits (store.scores request.nowEpochMillis) request.nowEpochMillis =
      book.reply request := by
  rw [AdmissionBook.reply]
  congr 1
  funext key
  exact h.scores_eq key

/-- The script grants what the book grants. -/
theorem grants_iff {request : AdmissionRequest} {id : String}
    (h : Explains store book request.nowEpochMillis) :
    grants store request id = true ↔ AdmissionBook.asks request id = true ∧
      ∃ expires, book.reply request = .granted expires := by
  rw [grants, acquireScript, h.reply_eq, AdmissionBook.asks]
  cases book.reply request <;> simp

end Explains

/-- The keys an admission is asked against are those it counts under. -/
theorem limits_keys (request : AdmissionRequest) (id : String) :
    request.limits.keys = (AdmissionBook.admission request id).keys := by
  simp only [AdmissionLimits.keys, AdmissionRequest.limits, Admission.keys,
    AdmissionBook.admission, AdmissionRequest.token, List.map_map]
  rfl

theorem keys_nodup (a : Admission) : a.keys.Nodup := by
  cases h : a.actorUserId <;>
    simp [Admission.keys, admissionScopes, draftRateKeys, h]

theorem AdmissionStore.update_sets (store : AdmissionStore) {keys : List AdmissionKey}
    (nodup : keys.Nodup) (change : AdmissionKey → Option SortedSet → Option SortedSet)
    (key : AdmissionKey) : (store.update keys change).sets key =
      if key ∈ keys then change key (store.sets key) else store.sets key :=
  KeyedRecord.foldl_modify change nodup store.sets key

theorem acquire_store {store : AdmissionStore} {request : AdmissionRequest} {id : String}
    (asks : AdmissionBook.asks request id = true) : (acquire store request id).2 =
      (acquireScript store request.limits request.nowEpochMillis (request.token id)).2 := by
  simp only [AdmissionBook.asks, Bool.and_eq_true] at asks
  rw [acquire, if_neg (by simp [asks])]
  generalize acquireScript store request.limits request.nowEpochMillis (request.token id) = result
  obtain ⟨reply, after⟩ := result
  cases reply with
  | denied retryAt =>
      simp only
      split <;> rfl
  | granted expires =>
      simp only
      split <;> rfl

theorem acquire_unasked {store : AdmissionStore} {request : AdmissionRequest} {id : String}
    (asks : AdmissionBook.asks request id = false) :
    acquire store request id = (.unavailable, store) := by
  rw [acquire, if_pos]
  simp only [AdmissionBook.asks, Bool.and_eq_false_iff] at asks
  exact asks

/-- What a valid request asks for is well formed. -/
theorem admission_wellFormed {request : AdmissionRequest} {id : String}
    (asks : AdmissionBook.asks request id = true) :
    (AdmissionBook.admission request id).WellFormed := by
  simp only [AdmissionBook.asks, AdmissionRequest.isValid, Bool.and_eq_true] at asks
  obtain ⟨⟨⟨⟨⟨⟨⟨⟨hactor, hproperty⟩, horganization⟩, _⟩, _⟩, _⟩, _⟩, _⟩, hid⟩ := asks
  refine ⟨hproperty, horganization, hid, ?_⟩
  intro hsome
  simp only [AdmissionBook.admission] at hsome ⊢
  rw [AdmissionRequest.validDraftActor] at hactor
  split at hactor
  · next hnone => simp [hnone] at hsome
  · simp only [Bool.and_eq_true, decide_eq_true_eq] at hactor
    exact hactor.1

namespace Explains

variable {store : AdmissionStore} {book : AdmissionBook} {clock now : ℤ}

/-- Pruning keeps the book's account. -/
theorem pruned {keys : List AdmissionKey} (nodup : keys.Nodup) (h : Explains store book now) :
    Explains (store.update keys fun key ↦ removeUpTo now (key.agedUpTo now)) book now where
  sets key := by
    rw [store.update_sets nodup]
    split
    · exact (h.sets key).removeUpTo
    · exact h.sets key
  leases := h.leases
  past := h.past
  ordered := h.ordered
  distinct := h.distinct
  granted := h.granted
  wellFormed := h.wellFormed

/-- A grant under all its keys and its lease are in the book's account. -/
theorem recorded (h : Explains store book now) {a : Admission} (hinstant : a.instant = now)
    (fresh : ∀ b ∈ book.grants, b.token ≠ a.token) (hwellFormed : a.WellFormed) :
    Explains
      { store.update a.keys (recordMember now a.token) with
        leases := store.leases.set a.token (now + leaseMillis) }
      { book with grants := a :: book.grants } now := by
  have kept : a.token ∉ book.released := by
    intro hreleased
    obtain ⟨b, mem, hb⟩ := h.granted _ hreleased
    exact fresh b mem hb
  constructor
  · intro key
    simp only
    rw [store.update_sets (keys_nodup a)]
    split
    · next own => exact (h.sets key).recordMember own hinstant fresh kept
    · next other => exact (h.sets key).grant_other other
  · intro token expiresAt
    simp only [KeyedRecord.set]
    by_cases htoken : token = a.token
    · subst htoken
      simp only [if_true, Option.some.injEq, List.mem_cons]
      constructor
      · rintro rfl
        exact ⟨a, Or.inl rfl, rfl, kept, by rw [hinstant]⟩
      · rintro ⟨b, rfl | mem, hb, _, rfl⟩
        · rw [hinstant]
        · exact absurd hb (fresh b mem)
    · rw [if_neg htoken, h.leases]
      constructor
      · rintro ⟨b, mem, hb⟩
        exact ⟨b, List.mem_cons_of_mem _ mem, hb⟩
      · rintro ⟨b, mem, hb, hrest⟩
        rcases List.mem_cons.1 mem with rfl | mem
        · exact absurd hb.symm htoken
        · exact ⟨b, mem, hb, hrest⟩
  · intro b mem
    rcases List.mem_cons.1 mem with rfl | mem
    · exact le_of_eq hinstant
    · exact h.past b mem
  · refine List.pairwise_cons.2 ⟨?_, h.ordered⟩
    intro b mem
    rw [hinstant]
    exact h.past b mem
  · simp only [List.map_cons, List.nodup_cons, List.mem_map, not_exists, not_and]
    exact ⟨fresh, h.distinct⟩
  · intro token hreleased
    obtain ⟨b, mem, hb⟩ := h.granted token hreleased
    exact ⟨b, List.mem_cons_of_mem _ mem, hb⟩
  · intro b mem
    rcases List.mem_cons.1 mem with rfl | mem
    · exact hwellFormed
    · exact h.wellFormed b mem

/-- An acquire call keeps the book's account. -/
theorem acquire {request : AdmissionRequest} {id : String}
    (h : Explains store book request.nowEpochMillis)
    (fresh : ∀ a ∈ book.grants, a.token.id ≠ id) :
    Explains (acquire store request id).2
      (if grants store request id then
        { book with grants := AdmissionBook.admission request id :: book.grants }
      else book) request.nowEpochMillis := by
  have hnodup : request.limits.keys.Nodup := by
    rw [limits_keys request id]
    exact keys_nodup _
  cases hasks : AdmissionBook.asks request id with
  | false =>
      have hnot : ¬ grants store request id = true := by
        rw [h.grants_iff, hasks]
        simp
      rw [acquire_unasked hasks, if_neg hnot]
      exact h
  | true =>
      rw [acquire_store hasks]
      have hpruned := h.pruned hnodup
      cases hreply : book.reply request with
      | denied retryAt =>
          have hnot : ¬ grants store request id = true := by
            rw [h.grants_iff, hreply]
            simp
          rw [if_neg hnot, acquireScript, h.reply_eq, hreply]
          exact hpruned
      | granted expires =>
          have hgrants : grants store request id = true :=
            h.grants_iff.2 ⟨hasks, expires, hreply⟩
          have hexpires : expires = request.nowEpochMillis + leaseMillis := by
            rw [AdmissionBook.reply, admissionReply] at hreply
            split at hreply
            · exact (AdmissionReply.granted.inj hreply).symm
            · cases hreply
          rw [if_pos hgrants, acquireScript, h.reply_eq, hreply]
          have hfresh : ∀ b ∈ book.grants, b.token ≠ (AdmissionBook.admission request id).token := by
            intro b mem hsame
            exact fresh b mem (congrArg AdmissionToken.id hsame)
          have hrecorded := hpruned.recorded (a := AdmissionBook.admission request id) rfl hfresh
            (admission_wellFormed hasks)
          rw [← limits_keys request id] at hrecorded
          subst hexpires
          exact hrecorded

/-- A release call keeps the book's account. -/
theorem release (h : Explains store book now) (token : AdmissionToken) :
    Explains (release store token now)
      (if frees store token now then { book with released := token :: book.released } else book)
      now := by
  by_cases hfrees : frees store token now = true
  · rw [if_pos hfrees]
    simp only [frees, Bool.and_eq_true, Option.any_eq_true, decide_eq_true_eq] at hfrees
    obtain ⟨⟨⟨hproperty, hid⟩, horganization⟩, expiresAt, hlease, hlive⟩ := hfrees
    have hrelease : Ai.release store token now =
        { store.update token.inFlightKeys fun _ ↦ removeMember now token with
          leases := store.leases.erase token } := by
      rw [Ai.release, if_neg (by simp [hproperty, hid, horganization]), releaseScript, hlease]
      exact if_pos hlive
    have hnodup : token.inFlightKeys.Nodup := by
      simp [AdmissionToken.inFlightKeys, admissionScopes]
    obtain ⟨owner, hmem, howner, _⟩ := (h.leases token expiresAt).1 hlease
    rw [hrelease]
    constructor
    · intro key
      simp only
      rw [store.update_sets hnodup]
      split
      · next own => exact (h.sets key).removeMember own
      · next other => exact (h.sets key).release_other other
    · intro other expiresAt
      simp only [KeyedRecord.erase, List.mem_cons]
      by_cases hother : other = token
      · simp [hother]
      · rw [if_neg hother, h.leases]
        simp [hother]
    · exact h.past
    · exact h.ordered
    · exact h.distinct
    · intro other hreleased
      rcases List.mem_cons.1 hreleased with rfl | hreleased
      · exact ⟨owner, hmem, howner⟩
      · exact h.granted other hreleased
    · exact h.wellFormed
  · rw [if_neg hfrees]
    have hrelease : Ai.release store token now = store := by
      rw [Ai.release]
      split
      · rfl
      · next hvalid =>
        rw [releaseScript]
        split
        · next expiresAt hlease =>
          apply if_neg
          intro hlive
          apply hfrees
          simp only [not_or, Bool.not_eq_false] at hvalid
          simp [frees, hvalid, hlease, hlive]
        · rfl
    rw [hrelease]
    exact h

end Explains

/-- A call keeps the book's account. -/
theorem explains_next {s : AdmissionState} {e : AdmissionEvent}
    (h : Explains s.store s.book s.clock) (later : s.clock ≤ e.now) (fresh : e.IsFresh s.book) :
    Explains (s.next e).store (s.next e).book (s.next e).clock := by
  cases e with
  | acquire request id => exact (h.weaken later).acquire fresh
  | release token now => exact (h.weaken later).release token

/-- In every run the book explains Redis. -/
theorem explains_of_run {h : List (Move AdmissionState AdmissionEvent)} {s : AdmissionState}
    (r : Run admissionSystem h s) : Explains s.store s.book s.clock := by
  apply r.invariant (I := fun s ↦ Explains s.store s.book s.clock)
  · rintro ⟨store, book, clock⟩ ⟨rfl, rfl⟩
    constructor
    · intro key
      exact ⟨fun _ _ ↦ rfl, by rintro s ⟨⟩, by rintro m ⟨⟩⟩
    · intro token expiresAt
      simp [KeyedRecord.empty]
    · rintro a ⟨⟩
    · exact List.Pairwise.nil
    · exact List.nodup_nil
    · rintro token ⟨⟩
    · rintro a ⟨⟩
  · rintro h s e s' - hkept ⟨later, fresh, rfl⟩
    exact explains_next hkept later fresh

end ReputationKey.Ai
