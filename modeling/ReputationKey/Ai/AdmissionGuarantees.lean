import ReputationKey.Ai.AdmissionReplay

/-!
# The guarantees of AI admission

The windows hold no more grants than their caps, the advice of a denial is exact, and a release frees
its own slot once.
-/

namespace ReputationKey.Ai

open Base Shared

/-! ## What the book records -/

/-- The admission a call was granted. -/
def grantedBy (m : Move AdmissionState AdmissionEvent) : Option Admission :=
  match m.event with
  | .acquire request id =>
      if grants m.pre.store request id then some (AdmissionBook.admission request id) else none
  | .release _ _ => none

/-- The token a call freed. -/
def freedBy (m : Move AdmissionState AdmissionEvent) : Option AdmissionToken :=
  match m.event with
  | .acquire _ _ => none
  | .release token now => if frees m.pre.store token now then some token else none

/-- The book of a run is what its calls were granted and what they freed. -/
theorem book_of_run {h : List (Move AdmissionState AdmissionEvent)} {s : AdmissionState}
    (r : Run admissionSystem h s) :
    s.book = ⟨h.filterMap grantedBy, h.filterMap freedBy⟩ := by
  induction r with
  | start hs => exact hs.2
  | @next h s s' e r hstep ih =>
      obtain ⟨_, _, rfl⟩ := hstep
      cases e with
      | acquire request id =>
          simp only [AdmissionState.next, List.filterMap_cons, grantedBy, freedBy]
          split
          · rw [ih]
          · exact ih
      | release token now =>
          simp only [AdmissionState.next, List.filterMap_cons, grantedBy, freedBy]
          split
          · rw [ih]
          · exact ih

/-- An admission is answered exactly when the script grants one whose end is a safe integer. -/
theorem acquire_ok_iff {store : AdmissionStore} {request : AdmissionRequest} {id : String}
    {token : AdmissionToken} {expires : ℤ} : (acquire store request id).1 = .ok token expires ↔
      grants store request id = true ∧ isSafeInstant (request.nowEpochMillis + leaseMillis) = true ∧
        token = request.token id ∧ expires = request.nowEpochMillis + leaseMillis := by
  cases hasks : AdmissionBook.asks request id with
  | false =>
      have hnot : grants store request id = false := by
        rw [AdmissionBook.asks] at hasks
        rw [grants, hasks]
        rfl
      rw [acquire_unasked hasks, hnot]
      simp
  | true =>
      rw [acquire_claim hasks]
      rw [AdmissionBook.asks] at hasks
      rw [grants, hasks, acquireScript_reply, admissionReply]
      split
      · have hnotEarlier : ¬ request.nowEpochMillis + leaseMillis < request.nowEpochMillis := by
          rw [leaseMillis]
          omega
        simp only [claimOf, hnotEarlier, or_false, Bool.and_self, true_and]
        by_cases hsafe : isSafeInstant (request.nowEpochMillis + leaseMillis) = true
        · rw [if_neg (by simp [hsafe])]
          simp only [AiAdmissionClaim.ok.injEq, hsafe, true_and]
          constructor
          · rintro ⟨rfl, rfl⟩
            exact ⟨rfl, rfl⟩
          · rintro ⟨rfl, rfl⟩
            exact ⟨rfl, rfl⟩
        · rw [if_pos (by simpa using hsafe)]
          simp [hsafe]
      · simp only [claimOf, Bool.true_and, Bool.false_eq_true, false_and, iff_false]
        split <;> simp

/-- A busy answer is the script's denial of a request it was asked about. -/
theorem acquire_busy {store : AdmissionStore} {request : AdmissionRequest} {id : String}
    {retryAt : ℤ} (busy : (acquire store request id).1 = .busy retryAt) :
    AdmissionBook.asks request id = true ∧ admissionReply request.limits
      (store.scores request.nowEpochMillis) request.nowEpochMillis = .denied retryAt := by
  cases hasks : AdmissionBook.asks request id with
  | false =>
      rw [acquire_unasked hasks] at busy
      cases busy
  | true =>
      rw [acquire_claim hasks, acquireScript_reply] at busy
      refine ⟨rfl, ?_⟩
      cases hreply : admissionReply request.limits (store.scores request.nowEpochMillis)
          request.nowEpochMillis with
      | granted expires =>
          rw [hreply, claimOf] at busy
          split at busy <;> cases busy
      | denied freeAt =>
          rw [hreply, claimOf] at busy
          split at busy
          · cases busy
          · rw [AiAdmissionClaim.busy.inj busy]

theorem not_grants_of_busy {store : AdmissionStore} {request : AdmissionRequest} {id : String}
    {retryAt : ℤ} (busy : (acquire store request id).1 = .busy retryAt) :
    grants store request id = false := by
  obtain ⟨hasks, hreply⟩ := acquire_busy busy
  rw [AdmissionBook.asks] at hasks
  rw [grants, hasks, acquireScript_reply, hreply]
  rfl

/-! ## Windows -/

/-- No window of a rate holds more grants than its cap. -/
theorem rate_window_le {h : List (Move AdmissionState AdmissionEvent)} {s : AdmissionState}
    (r : Run admissionSystem h s) {key : AdmissionKey} (rate : key.isInFlight = false) (start : ℤ) :
    ((s.book.under key).filter fun a ↦
      decide (start ≤ a.instant) && decide (a.instant < start + rateWindowMillis)).length ≤
        key.cap := by
  have hordered := (explains_of_run r).ordered.sublist (List.filter_sublist
    (p := fun a ↦ decide (key ∈ a.keys)))
  exact ((withinCaps_of_run r).rates key rate).length_le hordered start

/-- At no instant more slots than the cap are held. -/
theorem inFlight_le {h : List (Move AdmissionState AdmissionEvent)} {s : AdmissionState}
    (r : Run admissionSystem h s) {key : AdmissionKey} (inFlight : key.isInFlight = true) {t : ℤ}
    (later : s.clock ≤ t) : (s.book.current t key).length ≤ key.cap :=
  ((withinCaps_of_run r).later later).inFlight key inFlight

/-! ## Advice -/

/-- The latest of some instants is due exactly when all are. -/
theorem foldl_latest_le_iff (instants : List ℤ) (first t : ℤ) :
    instants.foldl (fun latest x ↦ if latest < x then x else latest) first ≤ t ↔
      first ≤ t ∧ ∀ x ∈ instants, x ≤ t := by
  induction instants generalizing first with
  | nil => simp
  | cons x rest ih =>
      rw [List.foldl_cons, ih, List.forall_mem_cons]
      split
      · constructor
        · rintro ⟨hx, hrest⟩
          exact ⟨by omega, hx, hrest⟩
        · rintro ⟨_, hx, hrest⟩
          exact ⟨hx, hrest⟩
      · constructor
        · rintro ⟨hfirst, hrest⟩
          exact ⟨hfirst, by omega, hrest⟩
        · rintro ⟨hfirst, _, hrest⟩
          exact ⟨hfirst, hrest⟩

/-- A rate has room at a later instant exactly when the instant it advised, if any, has come. -/
theorem rate_room_iff {scores : List ℤ} {now allowed : ℤ} (hallowed : 1 ≤ allowed) (t : ℤ) :
    ((scores.filter fun x ↦ decide (t - rateWindowMillis < x)).length : ℤ) < allowed ↔
      ∀ freeAt, rateFreeAt scores now allowed = some freeAt → freeAt ≤ t := by
  by_cases hfull : allowed ≤ scores.length
  · have hcount : allowed.toNat ≤ scores.length := by omega
    obtain ⟨freeing, _, hfreeing⟩ := SlidingWindow.exists_freeing (by omega) hcount
    have hfreeAt : rateFreeAt scores now allowed = some (freeing + rateWindowMillis) := by
      rw [rateFreeAt, if_pos (Or.inr hfull), if_pos hallowed, hfreeing]
    have hroom := SlidingWindow.length_lt_iff hcount hfreeing (t - rateWindowMillis)
    rw [hfreeAt]
    constructor
    · rintro hlt _ ⟨⟩
      have := hroom.1 (by omega)
      omega
    · intro hdue
      have := hroom.2 (by have := hdue _ rfl; omega)
      omega
  · have hnone : rateFreeAt scores now allowed = none :=
      rateFreeAt_eq_none_iff.2 ⟨hallowed, by omega⟩
    have hle := List.length_filter_le (fun x ↦ decide (t - rateWindowMillis < x)) scores
    rw [hnone]
    constructor
    · rintro _ _ ⟨⟩
    · intro _
      omega

/-- Headroom leaves room for one admission under every rate. -/
theorem one_le_allowed {request : AdmissionRequest} (valid : request.isValid = true)
    {l : AdmissionKey × ℤ} (mem : l ∈ request.limits.rates) : 1 ≤ l.2 := by
  simp only [AdmissionRequest.isValid, Bool.and_eq_true, decide_eq_true_eq] at valid
  have hheadroom := valid.2
  rw [AdmissionRequest.minimumRateCap] at hheadroom
  simp only [AdmissionRequest.limits, admissionScopes, List.map_cons, List.map_nil,
    List.mem_cons, List.not_mem_nil, or_false] at mem
  rcases mem with rfl | rfl | rfl
  · simp only
    omega
  · have hsame : ratePerMinute request.lane (.organization request.organizationId) =
        ratePerMinute request.lane (.organization "") := rfl
    simp only [hsame]
    omega
  · have hsame : ratePerMinute request.lane (.property request.propertyId) =
        ratePerMinute request.lane (.property "") := rfl
    simp only [hsame]
    omega

/-- The keys of the rates and of the drafts are rates. -/
theorem rate_of_mem_limits (request : AdmissionRequest) :
    (∀ l ∈ request.limits.rates, l.1.isInFlight = false) ∧
      ∀ l ∈ request.limits.drafts, l.1.isInFlight = false ∧ 1 ≤ (l.2 : ℤ) := by
  constructor
  · intro l mem
    obtain ⟨scope, _, rfl⟩ := List.mem_map.1 mem
    rfl
  · intro l mem
    simp only [AdmissionRequest.limits] at mem
    cases hactor : request.backgroundDraftActorUserId with
    | none =>
        rw [hactor] at mem
        cases mem
    | some actorUserId =>
        simp only [hactor, draftRateKeys, List.mem_cons, List.not_mem_nil, or_false] at mem
        rcases mem with rfl | rfl
        · exact ⟨rfl, by simp [draftActorRate]⟩
        · exact ⟨rfl, by simp [draftOrganizationRate]⟩

/-- What a rate still counts at a later instant is left of what it counts now. -/
theorem AdmissionBook.rate_scores_later (book : AdmissionBook) {key : AdmissionKey} {now t : ℤ}
    (rate : key.isInFlight = false) (hle : now ≤ t) :
    ((book.current t key).map fun a ↦ key.score a.instant) =
      ((book.current now key).map fun a ↦ key.score a.instant).filter
        fun x ↦ decide (t - rateWindowMillis < x) := by
  rw [List.filter_map, book.current_rate t rate, book.current_rate now rate, List.filter_filter]
  congr 1
  apply List.filter_congr
  intro a _
  have hscore : key.score a.instant = a.instant := by
    cases key with
    | inFlight scope lane => cases rate
    | _ => rfl
  rw [Function.comp_apply, hscore, Bool.eq_iff_iff, Bool.and_eq_true, decide_eq_true_eq,
    decide_eq_true_eq]
  omega

/-- A denial by rates alone advises the first instant at which the same request has room. -/
theorem AdmissionBook.room_iff_retryAt_le {book : AdmissionBook} {request : AdmissionRequest}
    (valid : request.isValid = true) {retryAt : ℤ} (denied : book.reply request = .denied retryAt)
    (inFlightRoom : ∀ l ∈ request.limits.inFlight,
      (book.current request.nowEpochMillis l.1).length < l.2) {t : ℤ}
    (later : request.nowEpochMillis ≤ t) :
    HasRoom request.limits (fun key ↦ (book.current t key).map fun a ↦ key.score a.instant) ↔
      retryAt ≤ t := by
  have hzero : 0 ≤ request.nowEpochMillis := by
    simp only [AdmissionRequest.isValid, Bool.and_eq_true, decide_eq_true_eq] at valid
    omega
  obtain ⟨hrates, hdrafts⟩ := rate_of_mem_limits request
  have hnoInFlight : request.limits.inFlight.filterMap (fun l ↦
      inFlightFreeAt ((book.current request.nowEpochMillis l.1).map fun a ↦ l.1.score a.instant)
        request.nowEpochMillis l.2) = [] := by
    rw [List.filterMap_eq_nil_iff]
    intro l mem
    rw [inFlightFreeAt_eq_none_iff, List.length_map]
    exact inFlightRoom l mem
  rw [AdmissionBook.reply, admissionReply] at denied
  split at denied
  · cases denied
  rw [hnoInFlight, List.append_nil] at denied
  rw [← AdmissionReply.denied.inj denied, foldl_latest_le_iff]
  simp only [List.mem_append, List.mem_filterMap]
  constructor
  · intro hroom
    refine ⟨by omega, ?_⟩
    rintro freeAt (⟨l, mem, hfreeAt⟩ | ⟨l, mem, hfreeAt⟩)
    · have := (hroom.rates l mem).2
      rw [book.rate_scores_later (hrates l mem) later] at this
      exact (rate_room_iff (one_le_allowed valid mem) t).1 this freeAt hfreeAt
    · have := hroom.drafts l mem
      rw [book.rate_scores_later (hdrafts l mem).1 later] at this
      exact (rate_room_iff (hdrafts l mem).2 t).1 (by exact_mod_cast this) freeAt hfreeAt
  · rintro ⟨_, hdue⟩
    constructor
    · intro l mem
      refine ⟨one_le_allowed valid mem, ?_⟩
      rw [book.rate_scores_later (hrates l mem) later]
      exact (rate_room_iff (one_le_allowed valid mem) t).2
        fun freeAt hfreeAt ↦ hdue freeAt (Or.inl ⟨l, mem, hfreeAt⟩)
    · intro l mem
      rw [List.length_map]
      exact lt_of_le_of_lt (book.current_length_le l.1 later) (inFlightRoom l mem)
    · intro l mem
      rw [book.rate_scores_later (hdrafts l mem).1 later]
      exact_mod_cast (rate_room_iff (hdrafts l mem).2 t).2
        fun freeAt hfreeAt ↦ hdue freeAt (Or.inr ⟨l, mem, hfreeAt⟩)

/-- The same request at another instant. -/
def AdmissionRequest.atInstant (request : AdmissionRequest) (t : ℤ) : AdmissionRequest :=
  { request with nowEpochMillis := t }

theorem isValid_atInstant {request : AdmissionRequest} (valid : request.isValid = true) {t : ℤ}
    (hzero : 0 ≤ t) (safe : isSafeInstant t = true) : (request.atInstant t).isValid = true := by
  simp only [AdmissionRequest.isValid, Bool.and_eq_true, decide_eq_true_eq] at valid ⊢
  obtain ⟨⟨⟨⟨⟨hrest, _⟩, _⟩, hsafe⟩, hnonneg⟩, hlt⟩ := valid
  exact ⟨⟨⟨⟨⟨hrest, safe⟩, hzero⟩, hsafe⟩, hnonneg⟩, hlt⟩

/-- After a denial by rates alone, the same call is granted from the advised instant on, and not
before. -/
theorem advice_exact {h : List (Move AdmissionState AdmissionEvent)} {s : AdmissionState}
    (r : Run admissionSystem h s) {request : AdmissionRequest} {id : String} {retryAt : ℤ}
    (clock : s.clock ≤ request.nowEpochMillis) (busy : (acquire s.store request id).1 = .busy retryAt)
    (inFlightRoom : ∀ l ∈ request.limits.inFlight,
      (s.store.scores request.nowEpochMillis l.1).length < l.2)
    {t : ℤ} (later : request.nowEpochMillis ≤ t) (safe : isSafeInstant (t + leaseMillis) = true)
    {other : String} (uuid : isUuid other = true) :
    (acquire (acquire s.store request id).2 (request.atInstant t) other).1 =
        .ok ((request.atInstant t).token other) (t + leaseMillis) ↔ retryAt ≤ t := by
  have hbefore := (explains_of_run r).weaken clock
  obtain ⟨hasks, hreply⟩ := acquire_busy busy
  have hvalid : request.isValid = true := by
    simp only [AdmissionBook.asks, Bool.and_eq_true] at hasks
    exact hasks.1
  have hzero : 0 ≤ request.nowEpochMillis := by
    simp only [AdmissionRequest.isValid, Bool.and_eq_true, decide_eq_true_eq] at hvalid
    omega
  have hsafe : isSafeInstant t = true := by
    have hlease : leaseMillis = 90000 := rfl
    simp only [isSafeInstant, Bool.and_eq_true, decide_eq_true_eq] at safe ⊢
    omega
  -- The denial pruned the sets and left the book alone.
  have hafter : Explains (acquire s.store request id).2 s.book t := by
    have hnodup : request.limits.keys.Nodup := by
      rw [limits_keys request id]
      exact keys_nodup _
    rw [acquire_store hasks, acquireScript, hreply]
    exact (hbefore.pruned hnodup).weaken later
  have hvalidLater := isValid_atInstant hvalid (by omega : 0 ≤ t) hsafe
  rw [hbefore.reply_eq] at hreply
  have hroom : ∀ l ∈ request.limits.inFlight,
      (s.book.current request.nowEpochMillis l.1).length < l.2 := by
    intro l mem
    have := inFlightRoom l mem
    rwa [hbefore.scores_eq, List.length_map] at this
  rw [acquire_ok_iff, ← AdmissionBook.room_iff_retryAt_le hvalid hreply hroom later,
    ← @admissionReply_granted_iff _ _ t]
  have hgrants := @Explains.grants_iff _ _ (request.atInstant t) other hafter
  rw [hgrants, AdmissionBook.asks, hvalidLater, uuid]
  constructor
  · rintro ⟨⟨_, hgranted⟩, _⟩
    exact hgranted
  · intro hgranted
    exact ⟨⟨rfl, hgranted⟩, safe, rfl, rfl⟩

/-! ## Releases -/

/-- Whatever a release did, every other admission counts as before. -/
theorem release_spares_others (book : AdmissionBook) (token : AdmissionToken) (now t : ℤ)
    (key : AdmissionKey) {a : Admission} (other : a.token ≠ token) :
    a ∈ (book.release token now).current t key ↔ a ∈ book.current t key := by
  rw [AdmissionBook.release]
  split
  · simp [AdmissionBook.current, AdmissionBook.counts, other]
  · exact Iff.rfl

/-- Giving back a token that was given back, or whose leases are all ended, changes no count. -/
theorem release_again (book : AdmissionBook) {token : AdmissionToken} {now t : ℤ} (later : now ≤ t)
    (ended : token ∈ book.released ∨
      ∀ a ∈ book.grants, a.token = token → a.instant + leaseMillis ≤ now) (key : AdmissionKey) :
    (book.release token now).current t key = book.current t key := by
  rw [AdmissionBook.release]
  split
  · next hleased =>
    rcases ended with released | expired
    · simp [AdmissionBook.leased, released] at hleased
    · apply List.filter_congr
      intro a mem
      by_cases hown : a.token = token
      · have hend := expired a mem hown
        cases key with
        | inFlight scope lane =>
            have haged : ¬ t < a.instant + leaseMillis := by omega
            simp [AdmissionBook.counts, AdmissionKey.agedUpTo, AdmissionKey.score, haged]
        | _ => rfl
      · simp [AdmissionBook.counts, hown]
  · rfl

/-! ## Every budget is kept -/

/-- In every run of acquire and release calls: Redis counts what its calls were granted and freed; no
window of a minute and no instant exceeds a cap; a lane is answered as if it were alone, and every
call as if those that were denied before it had not been made; the advice of a denial by rates is
exact; and a release frees its own slot once. -/
theorem admission_keeps_every_budget {h : List (Move AdmissionState AdmissionEvent)}
    {s : AdmissionState} (r : Run admissionSystem h s) :
    (s.book = ⟨h.filterMap grantedBy, h.filterMap freedBy⟩ ∧
      (∀ m ∈ h, ∀ request id token expires, m.event = .acquire request id →
        (acquire m.pre.store request id).1 = .ok token expires →
          AdmissionBook.admission request id ∈ s.book.grants ∧ token = request.token id) ∧
      ∀ key t, s.clock ≤ t →
        s.store.scores t key = (s.book.current t key).map fun a ↦ key.score a.instant) ∧
    (∀ key : AdmissionKey, key.isInFlight = false → ∀ start,
      ((s.book.under key).filter fun a ↦
        decide (start ≤ a.instant) && decide (a.instant < start + rateWindowMillis)).length ≤
          key.cap) ∧
    (∀ key : AdmissionKey, key.isInFlight = true → ∀ t, s.clock ≤ t →
      (s.book.current t key).length ≤ key.cap) ∧
    (∀ lane, ∃ h' s', Run admissionSystem h' s' ∧
      h'.map answered = (h.filter fun m ↦ decide (m.event.lane = lane)).map answered) ∧
    (∀ later m earlier request id retryAt, h = later ++ m :: earlier →
      m.event = .acquire request id → (acquire m.pre.store request id).1 = .busy retryAt →
        ∃ later' s', Run admissionSystem (later' ++ earlier) s' ∧
          later'.map answered = later.map answered) ∧
    (∀ (request : AdmissionRequest) id retryAt, s.clock ≤ request.nowEpochMillis →
      (acquire s.store request id).1 = .busy retryAt →
      (∀ l ∈ request.limits.inFlight,
        (s.store.scores request.nowEpochMillis l.1).length < l.2) →
      ∀ t other, request.nowEpochMillis ≤ t → isSafeInstant (t + leaseMillis) = true →
        isUuid other = true →
        ((acquire (acquire s.store request id).2 (request.atInstant t) other).1 =
          .ok ((request.atInstant t).token other) (t + leaseMillis) ↔ retryAt ≤ t)) ∧
    ∀ token now, s.clock ≤ now →
      (∀ key t a, a.token ≠ token →
        (a ∈ (s.next (.release token now)).book.current t key ↔ a ∈ s.book.current t key)) ∧
      ((token ∈ s.book.released ∨
          ∀ a ∈ s.book.grants, a.token = token → a.instant + leaseMillis ≤ now) →
        ∀ key t, now ≤ t →
          (s.next (.release token now)).book.current t key = s.book.current t key) := by
  have hexplains := explains_of_run r
  refine ⟨⟨book_of_run r, ?_, ?_⟩, ?_, ?_, ?_, ?_, ?_, ?_⟩
  · intro m mem request id token expires hevent hok
    obtain ⟨hgrants, _, htoken, _⟩ := acquire_ok_iff.1 hok
    refine ⟨?_, htoken⟩
    rw [book_of_run r]
    apply List.mem_filterMap.2
    refine ⟨m, mem, ?_⟩
    rw [grantedBy, hevent]
    exact if_pos hgrants
  · intro key t later
    exact (hexplains.weaken later).scores_eq key
  · intro key rate start
    exact rate_window_le r rate start
  · intro key inFlight t later
    exact inFlight_le r inFlight later
  · intro lane
    obtain ⟨h', s', r', _, _, hanswers⟩ := lane_alone r lane
    exact ⟨h', s', r', hanswers⟩
  · rintro later m earlier request id retryAt rfl hevent hbusy
    obtain ⟨_, ⟨_, _, hpost⟩, _⟩ := r.of_append
    have hkept : m.post.book = m.pre.book := by
      rw [hpost, hevent]
      simp [AdmissionState.next, not_grants_of_busy hbusy]
    obtain ⟨later', s', r', _, _, hanswers⟩ := call_forgotten r hkept
    exact ⟨later', s', r', hanswers⟩
  · intro request id retryAt clock busy inFlightRoom t other later safe uuid
    exact advice_exact r clock busy inFlightRoom later safe uuid
  · intro token now clock
    have hbook : (s.next (.release token now)).book = s.book.release token now :=
      next_book (e := .release token now) (hexplains.weaken clock)
    rw [hbook]
    refine ⟨?_, ?_⟩
    · intro key t a other
      exact release_spares_others s.book token now t key other
    · intro ended key t later
      exact release_again s.book later ended key

/-- A first interactive call. -/
def firstRequest : AdmissionRequest where
  organizationId := "acme"
  propertyId := "0b8f4a52-6f0e-4d3c-9a11-5d2c7e8f9a01"
  lane := .interactive
  nowEpochMillis := 1000
  headroom := none
  backgroundDraftActorUserId := none

/-- A Redis without admissions. -/
def emptyAdmissions : AdmissionState := ⟨⟨KeyedRecord.empty, KeyedRecord.empty⟩, ⟨[], []⟩, 0⟩

/-- The Redis after the first call. -/
def afterFirstRequest : AdmissionState :=
  emptyAdmissions.next (.acquire firstRequest "7c9e6679-7425-40de-944b-e07fc1f90ae7")

theorem admission_keeps_every_budget_first : afterFirstRequest.book.grants.length = 1 ∧
    ((afterFirstRequest.book.under (.rate .global .interactive)).filter fun a ↦
      decide (0 ≤ a.instant) && decide (a.instant < 0 + rateWindowMillis)).length ≤ 24 := by
  have hstart : Run admissionSystem [] emptyAdmissions := .start ⟨rfl, rfl⟩
  have hrun := hstart.next (e := .acquire firstRequest "7c9e6679-7425-40de-944b-e07fc1f90ae7")
    ⟨by decide, by rintro a ⟨⟩, rfl⟩
  refine ⟨by decide +kernel, ?_⟩
  exact (admission_keeps_every_budget hrun).2.1 (.rate .global .interactive) rfl 0

end ReputationKey.Ai
