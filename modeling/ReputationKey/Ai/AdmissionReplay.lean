import ReputationKey.Ai.AdmissionSafety

/-!
# Calls left out of a run

The book decides every answer, and what a lane is answered depends on its own part of the book only.
So the calls of the other lane, and a call that was denied, may be left out of a run: the calls that
remain are answered as before.
-/

namespace ReputationKey.Ai

open Base Shared

/-! ## Answers -/

/-- What a call learns: an admission or why there is none, and whether a release freed a slot. -/
inductive AdmissionAnswer
  | claimed (claim : AiAdmissionClaim)
  | freed (freed : Bool)
  deriving DecidableEq, Repr

/-- The answer to a call. -/
def AdmissionState.answer (s : AdmissionState) : AdmissionEvent → AdmissionAnswer
  | .acquire request id => .claimed (acquire s.store request id).1
  | .release token now => .freed (frees s.store token now)

/-- A call of a run with its answer. -/
def answered (m : Move AdmissionState AdmissionEvent) : AdmissionEvent × AdmissionAnswer :=
  (m.event, m.pre.answer m.event)

/-- The claim that the script's reply becomes. -/
def claimOf (request : AdmissionRequest) (id : String) : AdmissionReply → AiAdmissionClaim
  | .granted expires =>
      if isSafeInstant expires = false ∨ expires < request.nowEpochMillis then .unavailable
      else .ok (request.token id) (request.nowEpochMillis + leaseMillis)
  | .denied retryAt =>
      if isSafeInstant retryAt = false ∨ retryAt < request.nowEpochMillis then .unavailable
      else .busy retryAt

namespace AdmissionBook

/-- The answer the book gives to a call. -/
def answer (book : AdmissionBook) : AdmissionEvent → AdmissionAnswer
  | .acquire request id =>
      .claimed (if asks request id then claimOf request id (book.reply request) else .unavailable)
  | .release token now => .freed (book.leased now token)

/-- The book after a call. -/
def next (book : AdmissionBook) : AdmissionEvent → AdmissionBook
  | .acquire request id => book.acquire request id
  | .release token now => book.release token now

/-- The part of the book that is about one lane. -/
def ofLane (book : AdmissionBook) (lane : AiAdmissionLane) : AdmissionBook where
  grants := book.grants.filter fun a ↦ decide (a.token.lane = lane)
  released := book.released.filter fun token ↦ decide (token.lane = lane)

end AdmissionBook

/-- The adapter's answer is the script's reply to a request it is asked about. -/
theorem acquire_claim {store : AdmissionStore} {request : AdmissionRequest} {id : String}
    (asks : AdmissionBook.asks request id = true) : (acquire store request id).1 =
      claimOf request id
        (acquireScript store request.limits request.nowEpochMillis (request.token id)).1 := by
  simp only [AdmissionBook.asks, Bool.and_eq_true] at asks
  rw [acquire, if_neg (by simp [asks])]
  generalize acquireScript store request.limits request.nowEpochMillis (request.token id) = result
  obtain ⟨reply, after⟩ := result
  cases reply with
  | denied retryAt =>
      simp only [claimOf]
      split <;> rfl
  | granted expires =>
      simp only [claimOf]
      split <;> rfl

theorem acquireScript_reply (store : AdmissionStore) (limits : AdmissionLimits) (now : ℤ)
    (token : AdmissionToken) :
    (acquireScript store limits now token).1 = admissionReply limits (store.scores now) now := by
  rw [acquireScript]
  split
  · next h => exact h.symm
  · next h => exact h.symm

namespace Explains

variable {store : AdmissionStore} {book : AdmissionBook} {now : ℤ}

/-- A release frees what the book has leased. -/
theorem frees_eq (h : Explains store book now) (token : AdmissionToken) :
    frees store token now = book.leased now token := by
  rw [Bool.eq_iff_iff]
  simp only [frees, AdmissionBook.leased, Bool.and_eq_true, Option.any_eq_true, List.any_eq_true,
    decide_eq_true_eq, Bool.not_eq_true', decide_eq_false_iff_not]
  constructor
  · rintro ⟨_, expiresAt, hlease, hlive⟩
    obtain ⟨a, mem, htoken, hkept, rfl⟩ := (h.leases token expiresAt).1 hlease
    exact ⟨⟨a, mem, htoken, hlive⟩, hkept⟩
  · rintro ⟨⟨a, mem, htoken, hlive⟩, hkept⟩
    have hwellFormed := h.wellFormed a mem
    subst htoken
    exact ⟨⟨⟨hwellFormed.propertyId, hwellFormed.id⟩, hwellFormed.organizationId⟩, _,
      (h.leases a.token _).2 ⟨a, mem, rfl, hkept, rfl⟩, hlive⟩

end Explains

/-- Redis answers every call as its book does. -/
theorem answer_eq {s : AdmissionState} {e : AdmissionEvent}
    (h : Explains s.store s.book e.now) : s.answer e = s.book.answer e := by
  cases e with
  | acquire request id =>
      simp only [AdmissionState.answer, AdmissionBook.answer]
      cases hasks : AdmissionBook.asks request id with
      | false => rw [acquire_unasked hasks]; rfl
      | true =>
          rw [acquire_claim hasks, acquireScript_reply, h.reply_eq]
          rfl
  | release token now =>
      simp only [AdmissionState.answer, AdmissionBook.answer]
      rw [show frees s.store token now = s.book.leased now token from Explains.frees_eq h token]

/-- The book of Redis goes through the calls by itself. -/
theorem next_book {s : AdmissionState} {e : AdmissionEvent} (h : Explains s.store s.book e.now) :
    (s.next e).book = s.book.next e := by
  cases e with
  | acquire request id =>
      simp only [AdmissionState.next, AdmissionBook.next, AdmissionBook.acquire]
      by_cases hgrants : grants s.store request id = true
      · obtain ⟨hasks, expires, hreply⟩ := h.grants_iff.1 hgrants
        rw [if_pos hgrants, if_pos hasks, hreply]
      · rw [if_neg hgrants]
        cases hasks : AdmissionBook.asks request id with
        | false => rfl
        | true =>
            cases hreply : s.book.reply request with
            | denied retryAt => rfl
            | granted expires => exact absurd (h.grants_iff.2 ⟨hasks, expires, hreply⟩) hgrants
  | release token now =>
      simp only [AdmissionState.next, AdmissionBook.next, AdmissionBook.release]
      rw [show frees s.store token now = s.book.leased now token from Explains.frees_eq h token]

/-! ## Lanes -/

/-- The reply depends on the scores of the keys that are asked about only. -/
theorem admissionReply_congr {limits : AdmissionLimits} {scores other : AdmissionKey → List ℤ}
    (same : ∀ key ∈ limits.keys, scores key = other key) (now : ℤ) :
    admissionReply limits scores now = admissionReply limits other now := by
  have hkeys : ∀ key, key ∈ limits.rates.map Prod.fst ∨ key ∈ limits.inFlight.map Prod.fst ∨
      key ∈ limits.drafts.map Prod.fst → key ∈ limits.keys := by
    intro key mem
    rw [AdmissionLimits.keys, List.mem_append, List.mem_append, or_assoc]
    exact mem
  have hrates : limits.rates.filterMap (fun l ↦ rateFreeAt (scores l.1) now l.2) =
      limits.rates.filterMap fun l ↦ rateFreeAt (other l.1) now l.2 := by
    apply List.filterMap_congr
    intro l mem
    rw [same l.1 (hkeys l.1 (Or.inl (List.mem_map_of_mem mem)))]
  have hinFlight : limits.inFlight.filterMap (fun l ↦ inFlightFreeAt (scores l.1) now l.2) =
      limits.inFlight.filterMap fun l ↦ inFlightFreeAt (other l.1) now l.2 := by
    apply List.filterMap_congr
    intro l mem
    rw [same l.1 (hkeys l.1 (Or.inr (Or.inl (List.mem_map_of_mem mem))))]
  have hdrafts : limits.drafts.filterMap (fun l ↦ rateFreeAt (scores l.1) now l.2) =
      limits.drafts.filterMap fun l ↦ rateFreeAt (other l.1) now l.2 := by
    apply List.filterMap_congr
    intro l mem
    rw [same l.1 (hkeys l.1 (Or.inr (Or.inr (List.mem_map_of_mem mem))))]
  rw [admissionReply, hrates, hinFlight, hdrafts]
  rfl

/-- The lane a key counts; drafts are counted in the background lane only. -/
def AdmissionKey.lane : AdmissionKey → AiAdmissionLane
  | .rate _ lane => lane
  | .inFlight _ lane => lane
  | .draftActor _ => .background
  | .draftOrganization _ => .background

/-- An admission counts under keys of its own lane. -/
theorem Admission.WellFormed.lane_of_mem_keys {a : Admission} (h : a.WellFormed)
    {key : AdmissionKey} (mem : key ∈ a.keys) : key.lane = a.token.lane := by
  simp only [Admission.keys, List.mem_append] at mem
  rcases mem with (mem | mem) | mem
  · obtain ⟨scope, _, rfl⟩ := List.mem_map.1 mem
    rfl
  · obtain ⟨scope, _, rfl⟩ := List.mem_map.1 mem
    rfl
  · cases hactor : a.actorUserId with
    | none => simp [hactor, draftRateKeys] at mem
    | some actorUserId =>
        have hlane := h.actor (by rw [hactor]; rfl)
        simp only [hactor, draftRateKeys, List.map_cons, List.map_nil, List.mem_cons,
          List.not_mem_nil, or_false] at mem
        rcases mem with rfl | rfl
        · exact hlane.symm
        · exact hlane.symm

namespace AdmissionBook

variable {book : AdmissionBook} {lane : AiAdmissionLane}

/-- A lane's keys count the same in the lane's part of the book. -/
theorem current_ofLane (wellFormed : ∀ a ∈ book.grants, a.WellFormed) (now : ℤ)
    {key : AdmissionKey} (hlane : key.lane = lane) :
    (book.ofLane lane).current now key = book.current now key := by
  rw [current, current, ofLane, List.filter_filter]
  apply List.filter_congr
  intro a mem
  by_cases own : key ∈ a.keys
  · have hown : a.token.lane = lane := by
      rw [← hlane]
      exact ((wellFormed a mem).lane_of_mem_keys own).symm
    simp [counts, hown]
  · simp [counts, own]

theorem reply_ofLane (wellFormed : ∀ a ∈ book.grants, a.WellFormed) {request : AdmissionRequest}
    {id : String} (hasks : asks request id = true) :
    (book.ofLane request.lane).reply request = book.reply request := by
  rw [reply, reply]
  apply admissionReply_congr
  intro key mem
  rw [limits_keys request id] at mem
  have hlane : key.lane = request.lane := (admission_wellFormed hasks).lane_of_mem_keys mem
  rw [current_ofLane wellFormed _ hlane]

theorem leased_ofLane (now : ℤ) (token : AdmissionToken) :
    (book.ofLane token.lane).leased now token = book.leased now token := by
  have hgrants : ((book.ofLane token.lane).grants.any fun a ↦
      decide (a.token = token) && decide (now ≤ a.instant + leaseMillis)) =
      book.grants.any fun a ↦ decide (a.token = token) && decide (now ≤ a.instant + leaseMillis) := by
    rw [ofLane, List.any_filter]
    congr 1
    funext a
    by_cases htoken : a.token = token
    · simp [htoken]
    · simp [htoken]
  have hreleased : token ∈ (book.ofLane token.lane).released ↔ token ∈ book.released := by
    simp [ofLane]
  rw [leased, leased, hgrants]
  simp only [hreleased]

theorem release_ofLane (now : ℤ) (token : AdmissionToken) :
    (book.release token now).ofLane token.lane = (book.ofLane token.lane).release token now := by
  rw [release, release, leased_ofLane]
  split
  · simp [ofLane]
  · rfl

/-- A lane is answered from its part of the book. -/
theorem answer_ofLane (wellFormed : ∀ a ∈ book.grants, a.WellFormed) (e : AdmissionEvent) :
    (book.ofLane e.lane).answer e = book.answer e := by
  cases e with
  | acquire request id =>
      simp only [answer, AdmissionEvent.lane]
      cases hasks : asks request id with
      | false => rfl
      | true =>
          rw [reply_ofLane wellFormed hasks]
  | release token now =>
      simp only [answer, AdmissionEvent.lane]
      rw [leased_ofLane]

/-- A call changes its lane's part of the book by itself. -/
theorem next_ofLane (wellFormed : ∀ a ∈ book.grants, a.WellFormed) (e : AdmissionEvent) :
    (book.next e).ofLane e.lane = (book.ofLane e.lane).next e := by
  cases e with
  | acquire request id =>
      simp only [next, acquire, AdmissionEvent.lane]
      cases hasks : asks request id with
      | false => rfl
      | true =>
          rw [if_pos rfl, if_pos rfl, reply_ofLane wellFormed hasks]
          cases book.reply request with
          | denied retryAt => rfl
          | granted expires =>
              simp [ofLane, admission, AdmissionRequest.token]
  | release token now =>
      exact release_ofLane now token

/-- A call leaves the other lane's part of the book alone. -/
theorem next_ofLane_other {e : AdmissionEvent} (other : e.lane ≠ lane) :
    (book.next e).ofLane lane = book.ofLane lane := by
  cases e with
  | acquire request id =>
      simp only [AdmissionEvent.lane] at other
      simp only [next, acquire]
      split
      · split
        · rfl
        · simp [ofLane, admission, AdmissionRequest.token, other]
      · rfl
  | release token now =>
      simp only [AdmissionEvent.lane] at other
      simp only [next, release]
      split
      · simp [ofLane, other]
      · rfl

end AdmissionBook

/-! ## Runs without some of their calls -/

/-- A call that a run takes is taken and answered alike by any run with as much of the book as the
answer needs and a clock that is not ahead. -/
theorem extend_run {h h' : List (Move AdmissionState AdmissionEvent)} {s s' : AdmissionState}
    {e : AdmissionEvent} (r : Run admissionSystem h s) (r' : Run admissionSystem h' s')
    (clock : s'.clock ≤ s.clock) (later : s.clock ≤ e.now)
    (fewer : ∀ a ∈ s'.book.grants, a ∈ s.book.grants) (fresh : e.IsFresh s.book)
    (same : s'.book.answer e = s.book.answer e) :
    Run admissionSystem (⟨s', e, s'.next e⟩ :: h') (s'.next e) ∧ s'.answer e = s.answer e ∧
      (s'.next e).book = s'.book.next e ∧ (s'.next e).clock = e.now := by
  have hexplains := (explains_of_run r).weaken later
  have hexplains' := (explains_of_run r').weaken (le_trans clock later)
  have hfresh : e.IsFresh s'.book := by
    cases e with
    | acquire request id =>
        intro a mem
        exact fresh a (fewer a mem)
    | release token now => trivial
  refine ⟨r'.next ⟨le_trans clock later, hfresh, rfl⟩, ?_, next_book hexplains', ?_⟩
  · rw [answer_eq hexplains', answer_eq hexplains, same]
  · cases e <;> rfl

/-- The calls of one lane are answered as if they were the only ones. -/
theorem lane_alone {h : List (Move AdmissionState AdmissionEvent)} {s : AdmissionState}
    (r : Run admissionSystem h s) (lane : AiAdmissionLane) :
    ∃ h' s', Run admissionSystem h' s' ∧ s'.book = s.book.ofLane lane ∧ s'.clock ≤ s.clock ∧
      h'.map answered = (h.filter fun m ↦ decide (m.event.lane = lane)).map answered := by
  induction r with
  | @start s hs =>
      refine ⟨[], s, .start hs, ?_, le_refl _, rfl⟩
      rw [hs.2]
      rfl
  | @next h s s₁ e r hstep ih =>
      obtain ⟨later, fresh, rfl⟩ := hstep
      obtain ⟨h', s', r', hbook, hclock, hanswers⟩ := ih
      have hexplains := explains_of_run r
      have hnext := next_book (hexplains.weaken later)
      have hnow : (s.next e).clock = e.now := by cases e <;> rfl
      by_cases hlane : e.lane = lane
      · have hfewer : ∀ a ∈ s'.book.grants, a ∈ s.book.grants := by
          rw [hbook]
          intro a mem
          exact List.mem_of_mem_filter mem
        have hsame : s'.book.answer e = s.book.answer e := by
          rw [hbook, ← hlane]
          exact AdmissionBook.answer_ofLane hexplains.wellFormed e
        obtain ⟨hrun, hanswer, hbook', hclock'⟩ :=
          extend_run r r' hclock later hfewer fresh hsame
        refine ⟨_, _, hrun, ?_, by rw [hclock', hnow], ?_⟩
        · rw [hbook', hnext, hbook, ← hlane, AdmissionBook.next_ofLane hexplains.wellFormed]
        · rw [List.filter_cons_of_pos (by simpa using hlane), List.map_cons, List.map_cons, hanswers]
          simp only [answered, hanswer]
      · refine ⟨h', s', r', ?_, le_trans hclock (by rw [hnow]; exact later), ?_⟩
        · rw [hbook, hnext, AdmissionBook.next_ofLane_other hlane]
        · rw [List.filter_cons_of_neg (by simpa using hlane), hanswers]

/-- A call that left the book alone may be left out: every later call is answered as before. -/
theorem call_forgotten {later : List (Move AdmissionState AdmissionEvent)}
    {m : Move AdmissionState AdmissionEvent} {earlier : List (Move AdmissionState AdmissionEvent)}
    {s : AdmissionState} (r : Run admissionSystem (later ++ m :: earlier) s)
    (kept : m.post.book = m.pre.book) :
    ∃ later' s', Run admissionSystem (later' ++ earlier) s' ∧ s'.book = s.book ∧
      s'.clock ≤ s.clock ∧ later'.map answered = later.map answered := by
  induction later generalizing s with
  | nil =>
      cases r with
      | @next _ s₀ _ e r hstep =>
          obtain ⟨hlater, _, rfl⟩ := hstep
          have hnow : (s₀.next e).clock = e.now := by cases e <;> rfl
          exact ⟨[], s₀, r, kept.symm, by rw [hnow]; exact hlater, rfl⟩
  | cons n later ih =>
      cases r with
      | @next _ s₀ _ e r hstep =>
          obtain ⟨hlater, fresh, rfl⟩ := hstep
          obtain ⟨later', s', r', hbook, hclock, hanswers⟩ := ih r
          have hnext := next_book ((explains_of_run r).weaken hlater)
          have hnow : (s₀.next e).clock = e.now := by cases e <;> rfl
          obtain ⟨hrun, hanswer, hbook', hclock'⟩ :=
            extend_run r r' hclock hlater (by rw [hbook]; exact fun a mem ↦ mem) fresh
              (by rw [hbook])
          refine ⟨⟨s', e, s'.next e⟩ :: later', _, hrun, ?_, by rw [hclock', hnow], ?_⟩
          · rw [hbook', hnext, hbook]
          · rw [List.map_cons, List.map_cons, hanswers]
            simp only [answered, hanswer]

end ReputationKey.Ai
