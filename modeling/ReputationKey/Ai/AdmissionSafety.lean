import ReputationKey.Ai.AdmissionRun

/-!
# What the admission of AI calls guarantees

The caps of every window and of the calls in flight, the advice of a denial, the independence of the
two lanes and of denied calls, and what a release frees.
-/

namespace ReputationKey.Ai

open Base Shared

/-! ## Room -/

theorem rateFreeAt_eq_none_iff {scores : List ℤ} {now allowed : ℤ} :
    rateFreeAt scores now allowed = none ↔ 1 ≤ allowed ∧ (scores.length : ℤ) < allowed := by
  rw [rateFreeAt]
  split
  · next hfull =>
    simp only [reduceCtorEq, false_iff]
    omega
  · next hroom =>
    simp only [true_iff]
    omega

theorem inFlightFreeAt_eq_none_iff {scores : List ℤ} {now : ℤ} {cap : ℕ} :
    inFlightFreeAt scores now cap = none ↔ scores.length < cap := by
  rw [inFlightFreeAt]
  split
  · next hfull =>
    have hnot : ¬ scores.length < cap := by omega
    split <;> simp [hnot]
  · next hroom =>
    simp only [true_iff]
    omega

/-- Every key an admission is asked against has room. -/
structure HasRoom (limits : AdmissionLimits) (scores : AdmissionKey → List ℤ) : Prop where
  rates : ∀ l ∈ limits.rates, 1 ≤ l.2 ∧ ((scores l.1).length : ℤ) < l.2
  inFlight : ∀ l ∈ limits.inFlight, (scores l.1).length < l.2
  drafts : ∀ l ∈ limits.drafts, (scores l.1).length < l.2

/-- An admission is granted exactly when every key has room. -/
theorem admissionReply_granted_iff {limits : AdmissionLimits} {scores : AdmissionKey → List ℤ}
    {now : ℤ} : (∃ expires, admissionReply limits scores now = .granted expires) ↔
      HasRoom limits scores := by
  have hempty : (∃ expires, admissionReply limits scores now = .granted expires) ↔
      limits.rates.filterMap (fun l ↦ rateFreeAt (scores l.1) now l.2) ++
        limits.inFlight.filterMap (fun l ↦ inFlightFreeAt (scores l.1) now l.2) ++
        limits.drafts.filterMap (fun l ↦ rateFreeAt (scores l.1) now l.2) = [] := by
    rw [admissionReply]
    split
    · next h => simpa using h
    · next h => simpa using h
  rw [hempty]
  simp only [List.append_eq_nil_iff, List.filterMap_eq_nil_iff, rateFreeAt_eq_none_iff,
    inFlightFreeAt_eq_none_iff]
  constructor
  · rintro ⟨⟨hrates, hinFlight⟩, hdrafts⟩
    exact ⟨hrates, hinFlight, fun l mem ↦ by exact_mod_cast (hdrafts l mem).2⟩
  · intro h
    refine ⟨⟨h.rates, h.inFlight⟩, fun l mem ↦ ?_⟩
    have hroom := h.drafts l mem
    omega

/-- The most a key may count. -/
def AdmissionKey.cap : AdmissionKey → ℕ
  | .rate scope lane => ratePerMinute lane scope
  | .inFlight scope lane => inFlightCap lane scope
  | .draftActor _ => draftActorRate
  | .draftOrganization _ => draftOrganizationRate

theorem draftRateKeys_cap {organizationId : String} {actorUserId : Option String}
    {l : AdmissionKey × ℕ} (mem : l ∈ draftRateKeys organizationId actorUserId) :
    l.2 = l.1.cap := by
  cases actorUserId with
  | none => cases mem
  | some actorUserId =>
      simp only [draftRateKeys, List.mem_cons, List.not_mem_nil, or_false] at mem
      rcases mem with rfl | rfl <;> rfl

theorem headroom_nonneg {request : AdmissionRequest} (valid : request.isValid = true) :
    0 ≤ request.headroomOrNone := by
  simp only [AdmissionRequest.isValid, Bool.and_eq_true, decide_eq_true_eq] at valid
  exact valid.1.2

/-- A grant finds less than the cap under each of its keys. -/
theorem HasRoom.lt_cap {request : AdmissionRequest} {scores : AdmissionKey → List ℤ}
    (h : HasRoom request.limits scores) (valid : request.isValid = true) {key : AdmissionKey}
    (mem : key ∈ request.limits.keys) : (scores key).length < key.cap := by
  simp only [AdmissionLimits.keys, List.mem_append, List.mem_map] at mem
  rcases mem with (⟨l, hl, rfl⟩ | ⟨l, hl, rfl⟩) | ⟨l, hl, rfl⟩
  · have hroom := (h.rates l hl).2
    have hnonneg := headroom_nonneg valid
    obtain ⟨scope, _, rfl⟩ := List.mem_map.1 hl
    simp only [AdmissionKey.cap] at hroom ⊢
    omega
  · have hroom := h.inFlight l hl
    obtain ⟨scope, _, rfl⟩ := List.mem_map.1 hl
    exact hroom
  · have hroom := h.drafts l hl
    rw [draftRateKeys_cap hl] at hroom
    exact hroom

/-! ## The caps -/

/-- The grants that count under a key, whenever they were made. -/
def AdmissionBook.under (book : AdmissionBook) (key : AdmissionKey) : List Admission :=
  book.grants.filter fun a ↦ decide (key ∈ a.keys)

/-- Later, a key counts no more than now. -/
theorem AdmissionBook.current_length_le (book : AdmissionBook) (key : AdmissionKey) {now later : ℤ}
    (hle : now ≤ later) : (book.current later key).length ≤ (book.current now key).length := by
  apply List.Sublist.length_le
  apply List.monotone_filter_right
  intro a ha
  have hmono := key.agedUpTo_mono hle
  simp only [AdmissionBook.counts, Bool.and_eq_true, decide_eq_true_eq] at ha ⊢
  exact ⟨⟨ha.1.1, by omega⟩, ha.2⟩

/-- The admissions a rate key counts are those of the window that ends now. -/
theorem AdmissionBook.current_rate (book : AdmissionBook) (now : ℤ) {key : AdmissionKey}
    (rate : key.isInFlight = false) : book.current now key =
      (book.under key).filter fun a ↦ decide (now - rateWindowMillis < a.instant) := by
  rw [AdmissionBook.current, AdmissionBook.under, List.filter_filter]
  apply List.filter_congr
  intro a _
  have haged : key.agedUpTo now = now - rateWindowMillis := by
    cases key with
    | inFlight scope lane => cases rate
    | _ => rfl
  have hscore : key.score a.instant = a.instant := by
    cases key with
    | inFlight scope lane => cases rate
    | _ => rfl
  rw [AdmissionBook.counts, haged, hscore, rate, Bool.false_and, Bool.not_false, Bool.and_true]
  exact Bool.and_comm _ _

/-- The book keeps the caps of every key. -/
structure WithinCaps (book : AdmissionBook) (clock : ℤ) : Prop where
  rates : ∀ key, key.isInFlight = false →
    SlidingWindow.Paced Admission.instant rateWindowMillis key.cap (book.under key)
  inFlight : ∀ key, key.isInFlight = true → (book.current clock key).length ≤ key.cap

/-- A grant keeps the caps. -/
theorem WithinCaps.grant {book : AdmissionBook} {clock : ℤ} {request : AdmissionRequest}
    {id : String} (h : WithinCaps book clock) (later : clock ≤ request.nowEpochMillis)
    (asks : AdmissionBook.asks request id = true) {expires : ℤ}
    (granted : book.reply request = .granted expires) :
    WithinCaps { book with grants := AdmissionBook.admission request id :: book.grants }
      request.nowEpochMillis := by
  have hvalid : request.isValid = true := by
    simp only [AdmissionBook.asks, Bool.and_eq_true] at asks
    exact asks.1
  have hroom := admissionReply_granted_iff.1 ⟨expires, granted⟩
  have hcap : ∀ key ∈ (AdmissionBook.admission request id).keys,
      (book.current request.nowEpochMillis key).length < key.cap := by
    intro key mem
    rw [← limits_keys] at mem
    have := hroom.lt_cap hvalid mem
    rwa [List.length_map] at this
  constructor
  · intro key rate
    rw [AdmissionBook.under, List.filter_cons]
    split
    · next own =>
      refine ⟨?_, h.rates key rate⟩
      have := hcap key (of_decide_eq_true own)
      rwa [book.current_rate _ rate] at this
    · exact h.rates key rate
  · intro key inFlight
    have hbefore := le_trans (book.current_length_le key later) (h.inFlight key inFlight)
    rw [AdmissionBook.current, List.filter_cons]
    split
    · next own =>
      simp only [AdmissionBook.counts, Bool.and_eq_true, decide_eq_true_eq] at own
      have := hcap key own.1.1
      rw [List.length_cons]
      exact this
    · exact hbefore

theorem WithinCaps.later {book : AdmissionBook} {clock now : ℤ} (h : WithinCaps book clock)
    (hle : clock ≤ now) : WithinCaps book now where
  rates := h.rates
  inFlight key inFlight := le_trans (book.current_length_le key hle) (h.inFlight key inFlight)

theorem WithinCaps.release {book : AdmissionBook} {clock : ℤ} (h : WithinCaps book clock)
    (token : AdmissionToken) :
    WithinCaps { book with released := token :: book.released } clock where
  rates := h.rates
  inFlight key inFlight := by
    apply le_trans _ (h.inFlight key inFlight)
    apply List.Sublist.length_le
    apply List.monotone_filter_right
    intro a ha
    simp only [AdmissionBook.counts, List.mem_cons] at ha ⊢
    grind

/-- Every run keeps the caps. -/
theorem withinCaps_of_run {h : List (Move AdmissionState AdmissionEvent)} {s : AdmissionState}
    (r : Run admissionSystem h s) : WithinCaps s.book s.clock := by
  apply r.invariant (I := fun s ↦ WithinCaps s.book s.clock)
  · rintro ⟨store, book, clock⟩ ⟨-, rfl⟩
    exact ⟨fun _ _ ↦ trivial, fun _ _ ↦ Nat.zero_le _⟩
  · rintro h s e s' r hkept ⟨later, fresh, rfl⟩
    have hexplains := (explains_of_run r).weaken later
    cases e with
    | acquire request id =>
        by_cases hgrants : grants s.store request id = true
        · obtain ⟨hasks, expires, hreply⟩ := hexplains.grants_iff.1 hgrants
          have hbook : (s.next (.acquire request id)).book =
              { s.book with grants := AdmissionBook.admission request id :: s.book.grants } :=
            if_pos hgrants
          rw [hbook]
          exact hkept.grant later hasks hreply
        · have hbook : (s.next (.acquire request id)).book = s.book := if_neg hgrants
          rw [hbook]
          exact hkept.later later
    | release token now =>
        by_cases hfrees : frees s.store token now = true
        · have hbook : (s.next (.release token now)).book =
              { s.book with released := token :: s.book.released } := if_pos hfrees
          rw [hbook]
          exact (hkept.later later).release token
        · have hbook : (s.next (.release token now)).book = s.book := if_neg hfrees
          rw [hbook]
          exact hkept.later later

end ReputationKey.Ai
