import ReputationKey.Ai.LaneAdmission

/-!
# Admissions as a book of grants

What the admissions are for: a book of the grants made and of the ones given back. Every answer of
the script is the answer the book gives, whatever was pruned, overwritten or dropped by expiry.
-/

namespace ReputationKey.Ai

open Base Shared

/-! ## The book -/

/-- One admission that was granted. -/
structure Admission where
  token : AdmissionToken
  actorUserId : Option String
  instant : ℤ
  deriving DecidableEq, Repr

/-- The grants, the newest first, and the tokens given back while their lease was there. -/
structure AdmissionBook where
  grants : List Admission
  released : List AdmissionToken
  deriving DecidableEq, Repr

/-- The keys an admission counts under. -/
def Admission.keys (a : Admission) : List AdmissionKey :=
  (admissionScopes a.token.organizationId a.token.propertyId).map (.rate · a.token.lane) ++
    (admissionScopes a.token.organizationId a.token.propertyId).map (.inFlight · a.token.lane) ++
    (draftRateKeys a.token.organizationId a.actorUserId).map Prod.fst

/-- The score of an admission under a key. -/
def AdmissionKey.score (instant : ℤ) : AdmissionKey → ℤ
  | .inFlight _ _ => instant + leaseMillis
  | _ => instant

/-- A key that a release frees. -/
def AdmissionKey.isInFlight : AdmissionKey → Bool
  | .inFlight _ _ => true
  | _ => false

namespace AdmissionBook

variable (book : AdmissionBook)

/-- An admission takes a place under a key at an instant: it counts there, it has not aged out, and
it was not given back. -/
def counts (now : ℤ) (key : AdmissionKey) (a : Admission) : Bool :=
  decide (key ∈ a.keys) && decide (key.agedUpTo now < key.score a.instant) &&
    !(key.isInFlight && decide (a.token ∈ book.released))

/-- The admissions that take a place under a key at an instant. -/
def current (now : ℤ) (key : AdmissionKey) : List Admission :=
  book.grants.filter (book.counts now key)

/-- The answer the book gives. -/
def reply (request : AdmissionRequest) : AdmissionReply :=
  admissionReply request.limits
    (fun key ↦ (book.current request.nowEpochMillis key).map fun a ↦ key.score a.instant)
    request.nowEpochMillis

/-- The admission a request would be granted. -/
def admission (request : AdmissionRequest) (id : String) : Admission :=
  ⟨request.token id, request.backgroundDraftActorUserId, request.nowEpochMillis⟩

/-- A request the script is asked about. -/
def asks (request : AdmissionRequest) (id : String) : Bool := request.isValid && isUuid id

/-- The book after a request. -/
def acquire (request : AdmissionRequest) (id : String) : AdmissionBook :=
  if asks request id then
    match book.reply request with
    | .denied _ => book
    | .granted _ => { book with grants := admission request id :: book.grants }
  else book

/-- A lease that is still there: granted, not given back, and not over. -/
def leased (now : ℤ) (token : AdmissionToken) : Bool :=
  (book.grants.any fun a ↦ decide (a.token = token) && decide (now ≤ a.instant + leaseMillis)) &&
    !decide (token ∈ book.released)

/-- The book after a release. -/
def release (token : AdmissionToken) (now : ℤ) : AdmissionBook :=
  if book.leased now token then { book with released := token :: book.released } else book

end AdmissionBook

/-! ## The sorted sets hold the book -/

theorem AdmissionKey.agedUpTo_mono (key : AdmissionKey) {now later : ℤ} (hle : now ≤ later) :
    key.agedUpTo now ≤ key.agedUpTo later := by
  cases key <;> simp only [AdmissionKey.agedUpTo] <;> omega

theorem AdmissionKey.score_mono (key : AdmissionKey) {now later : ℤ} (hle : now ≤ later) :
    key.score now ≤ key.score later := by
  cases key <;> simp only [AdmissionKey.score] <;> omega

/-- The members written under a key, expired or not. -/
def heldMembers (set : Option SortedSet) : List (AdmissionToken × ℤ) :=
  (set.map SortedSet.members).getD []

/-- A sorted set holds what its key counts in the book, from an instant on; its expiry drops only
what has aged out. -/
structure Holds (book : AdmissionBook) (clock : ℤ) (key : AdmissionKey) (set : Option SortedSet) :
    Prop where
  current : ∀ now, clock ≤ now →
    (heldMembers set).filter (fun m ↦ decide (key.agedUpTo now < m.2)) =
      (book.current now key).map fun a ↦ (a.token, key.score a.instant)
  expiry : ∀ s, set = some s → ∀ m ∈ s.members, m.2 ≤ key.agedUpTo s.expiresAt
  scored : ∀ m ∈ heldMembers set, m.2 ≤ key.score clock

namespace Holds

variable {book : AdmissionBook} {clock now later : ℤ} {key : AdmissionKey} {set : Option SortedSet}

theorem weaken (h : Holds book clock key set) (hle : clock ≤ now) : Holds book now key set where
  current later hlater := h.current later (by omega)
  expiry := h.expiry
  scored m mem := le_trans (h.scored m mem) (key.score_mono hle)

/-- Expiry hides no member that still counts. -/
theorem live (h : Holds book clock key set) (hle : now ≤ later) :
    (liveMembers now set).filter (fun m ↦ decide (key.agedUpTo later < m.2)) =
      (heldMembers set).filter fun m ↦ decide (key.agedUpTo later < m.2) := by
  cases set with
  | none => rfl
  | some s =>
      simp only [liveMembers, heldMembers, Option.map_some, Option.getD_some]
      split
      · rfl
      · next hexpired =>
        symm
        rw [List.filter_nil, List.filter_eq_nil_iff]
        intro m mem
        have hscore := h.expiry s rfl m mem
        have haged := key.agedUpTo_mono (show s.expiresAt ≤ later by omega)
        simp only [decide_eq_true_eq]
        omega

theorem live_current (h : Holds book now key set) (hle : now ≤ later) :
    (liveMembers now set).filter (fun m ↦ decide (key.agedUpTo later < m.2)) =
      (book.current later key).map fun a ↦ (a.token, key.score a.instant) := by
  rw [h.live hle, h.current later hle]

theorem mem_of_live {m : AdmissionToken × ℤ} (mem : m ∈ liveMembers now set) :
    m ∈ heldMembers set := by
  cases set with
  | none => exact mem
  | some s =>
      simp only [liveMembers] at mem
      split at mem
      · exact mem
      · cases mem

/-- Pruning what has aged out keeps what the book counts. -/
theorem removeUpTo (h : Holds book now key set) :
    Holds book now key (removeUpTo now (key.agedUpTo now) set) := by
  cases hset : set with
  | none =>
      rw [hset] at h
      exact h
  | some s =>
      rw [hset] at h
      constructor
      · intro later hlater
        have hmono := key.agedUpTo_mono hlater
        rw [← h.live_current hlater]
        simp only [Ai.removeUpTo, heldMembers, Option.map_some, Option.getD_some,
          List.filter_filter]
        apply List.filter_congr
        intro m _
        grind
      · rintro _ ⟨⟩ m mem
        have hheld := mem_of_live (List.mem_filter.1 mem).1
        exact h.expiry s rfl m hheld
      · intro m mem
        exact h.scored m (mem_of_live (List.mem_filter.1 mem).1)

/-- A grant does not count under the keys that are not its own. -/
theorem grant_other (h : Holds book clock key set) {a : Admission} (other : key ∉ a.keys) :
    Holds { book with grants := a :: book.grants } clock key set where
  current now hnow := by
    rw [h.current now hnow, AdmissionBook.current, AdmissionBook.current,
      List.filter_cons_of_neg (by simp [AdmissionBook.counts, other])]
    rfl
  expiry := h.expiry
  scored := h.scored

/-- Without one token a set holds what the book counts without it. -/
theorem live_without (h : Holds book now key set) (hle : now ≤ later) (token : AdmissionToken) :
    ((liveMembers now set).filter fun m ↦ decide (m.1 ≠ token)).filter
        (fun m ↦ decide (key.agedUpTo later < m.2)) =
      ((book.current later key).filter fun a ↦ decide (a.token ≠ token)).map
        fun a ↦ (a.token, key.score a.instant) := by
  have hswap : ((liveMembers now set).filter fun m ↦ decide (m.1 ≠ token)).filter
      (fun m ↦ decide (key.agedUpTo later < m.2)) =
      ((liveMembers now set).filter fun m ↦ decide (key.agedUpTo later < m.2)).filter
        fun m ↦ decide (m.1 ≠ token) := by
    rw [List.filter_filter, List.filter_filter]
    apply List.filter_congr
    intro m _
    exact Bool.and_comm _ _
  rw [hswap, h.live_current hle, List.filter_map]
  rfl

/-- A grant that is written under its own key counts there. -/
theorem recordMember (h : Holds book now key set) {a : Admission} (own : key ∈ a.keys)
    (hinstant : a.instant = now) (fresh : ∀ b ∈ book.grants, b.token ≠ a.token)
    (kept : a.token ∉ book.released) :
    Holds { book with grants := a :: book.grants } now key (recordMember now a.token key set) := by
  obtain ⟨expiresAt, hrecord, hexpiry⟩ : ∃ expiresAt,
      Ai.recordMember now a.token key set = addMember now (key.score now) a.token expiresAt set ∧
        key.score now ≤ key.agedUpTo expiresAt := by
    cases key with
    | inFlight scope lane =>
        refine ⟨_, rfl, ?_⟩
        simp only [AdmissionKey.score, AdmissionKey.agedUpTo, rateWindowMillis]
        omega
    | rate scope lane =>
        refine ⟨_, rfl, ?_⟩
        simp only [AdmissionKey.score, AdmissionKey.agedUpTo, rateWindowMillis]
        omega
    | draftActor actorUserId =>
        refine ⟨_, rfl, ?_⟩
        simp only [AdmissionKey.score, AdmissionKey.agedUpTo, rateWindowMillis]
        omega
    | draftOrganization organizationId =>
        refine ⟨_, rfl, ?_⟩
        simp only [AdmissionKey.score, AdmissionKey.agedUpTo, rateWindowMillis]
        omega
  rw [hrecord]
  have hscored : ∀ m ∈ (a.token, key.score now) ::
      (liveMembers now set).filter (fun m ↦ decide (m.1 ≠ a.token)), m.2 ≤ key.score now := by
    intro m mem
    rcases List.mem_cons.1 mem with rfl | mem
    · exact le_refl _
    · exact h.scored m (mem_of_live (List.mem_of_mem_filter mem))
  constructor
  · intro later hlater
    have hold := h.live_without hlater a.token
    have hall : (book.current later key).filter (fun b ↦ decide (b.token ≠ a.token)) =
        book.current later key := by
      rw [List.filter_eq_self]
      intro b mem
      exact decide_eq_true (fresh b (List.mem_of_mem_filter mem))
    rw [hall] at hold
    have hcounts : AdmissionBook.counts { book with grants := a :: book.grants } later key a =
        decide (key.agedUpTo later < key.score now) := by
      simp [AdmissionBook.counts, own, hinstant, kept]
    have hrest : (AdmissionBook.current { book with grants := a :: book.grants } later key) =
        if decide (key.agedUpTo later < key.score now) then a :: book.current later key
        else book.current later key := by
      rw [AdmissionBook.current, List.filter_cons, hcounts]
      rfl
    simp only [addMember, heldMembers, Option.map_some, Option.getD_some, List.filter_cons, hold,
      hrest]
    split
    · rw [List.map_cons, hinstant]
    · rfl
  · rintro _ ⟨⟩ m mem
    exact le_trans (hscored m mem) hexpiry
  · exact hscored

/-- A release does not free the keys that the token holds no slot under. -/
theorem release_other (h : Holds book clock key set) {token : AdmissionToken}
    (other : key ∉ token.inFlightKeys) :
    Holds { book with released := token :: book.released } clock key set where
  current now hnow := by
    rw [h.current now hnow, AdmissionBook.current, AdmissionBook.current]
    congr 1
    apply List.filter_congr
    intro a _
    simp only [AdmissionBook.counts, List.mem_cons]
    by_cases hkey : key ∈ a.keys
    · cases key with
      | inFlight scope lane =>
          have hne : a.token ≠ token := by
            rintro rfl
            simp only [Admission.keys, List.mem_append, List.mem_map] at hkey
            rcases hkey with (⟨_, _, hkey⟩ | hkey) | ⟨l, hl, hkey⟩
            · cases hkey
            · exact other (List.mem_map.2 hkey)
            · cases hactor : a.actorUserId with
              | none => simp [draftRateKeys, hactor] at hl
              | some actorUserId =>
                  simp only [draftRateKeys, hactor, List.mem_cons, List.not_mem_nil,
                    or_false] at hl
                  rcases hl with rfl | rfl <;> cases hkey
          simp [hne]
      | rate scope lane => simp [AdmissionKey.isInFlight]
      | draftActor actorUserId => simp [AdmissionKey.isInFlight]
      | draftOrganization organizationId => simp [AdmissionKey.isInFlight]
    · simp [hkey]
  expiry := h.expiry
  scored := h.scored

/-- A release frees the token's own slot and no other. -/
theorem removeMember (h : Holds book now key set) {token : AdmissionToken}
    (own : key ∈ token.inFlightKeys) :
    Holds { book with released := token :: book.released } now key
      (removeMember now token set) := by
  have hheld : heldMembers (Ai.removeMember now token set) =
      (liveMembers now set).filter fun m ↦ decide (m.1 ≠ token) := by
    cases set with
    | none => rfl
    | some s => rfl
  have hinFlight : key.isInFlight = true := by
    obtain ⟨scope, _, rfl⟩ := List.mem_map.1 own
    rfl
  constructor
  · intro later hlater
    rw [hheld, h.live_without hlater, AdmissionBook.current, AdmissionBook.current,
      List.filter_filter]
    congr 1
    apply List.filter_congr
    intro a _
    simp only [AdmissionBook.counts, hinFlight, List.mem_cons]
    grind
  · intro s hs m mem
    cases set with
    | none => cases hs
    | some before =>
        cases hs
        exact h.expiry before rfl m (mem_of_live (List.mem_of_mem_filter mem))
  · rw [hheld]
    intro m mem
    exact h.scored m (mem_of_live (List.mem_of_mem_filter mem))

end Holds

end ReputationKey.Ai
