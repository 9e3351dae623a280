import ReputationKey.Shared.OutboxSteps

/-!
# Runs of outbox delivery

What holds of the outbox, of its receipts and deliveries and of every dispatch, after any number of
events in any order.
-/

namespace ReputationKey.Shared

open ReputationKey.Base

/-! ## Runs -/

/-- A fact gets an id of its own, and a poll admits facts that one of its statements saw waiting. -/
def DeliveryEvent.Read (seen : DeliveryState → Prop) : DeliveryEvent → Prop
  | .insert id _ _ => ∀ p, seen p → p.stores id = false
  | .admitWork candidate expected _ now => ∃ p, seen p ∧ ∃ event ∈ p.events, event.id = candidate.id ∧
      event.organizationId = candidate.organizationId ∧ event.eventType = candidate.eventType ∧
      event.admissible p.items p.receipts expected now = true
  | _ => True

/-- Outbox delivery from the first start of the release that brought the work ledger on: the outbox
may hold facts of any earlier release, published or not, with any receipts; no delivery exists. -/
def outboxDelivery : ReadSystem DeliveryState DeliveryEvent where
  init state := state.items = [] ∧ state.dispatches = [] ∧ (state.events.map (·.id)).Nodup ∧
    ∀ receipt ∈ state.receipts, state.stores receipt.eventId = true
  step seen state event state' := event.Read seen ∧ state' = event.run state

/-- One more event of a run. -/
theorem outboxDelivery_next {h : List (Move DeliveryState DeliveryEvent)} {state : DeliveryState}
    (run : Run outboxDelivery h state) (event : DeliveryEvent)
    (read : event.Read (Seen h state)) :
    Run outboxDelivery (⟨state, event, event.run state⟩ :: h) (event.run state) :=
  run.next ⟨read, rfl⟩

section Kept

variable {h : List (Move DeliveryState DeliveryEvent)} {state : DeliveryState}

/-- A consumer had left its receipt for a fact at some point of the run. -/
def HadReceipt (h : List (Move DeliveryState DeliveryEvent)) (state : DeliveryState)
    (eventId name : String) : Prop :=
  ∃ p, Seen h state p ∧ hasReceipt p.receipts eventId name = true

/-- What a dispatch has established at a step: when it verifies and settles, the receipts it has found,
or that there was no fact to deliver, which stays so. -/
def DispatchStep.Established (h : List (Move DeliveryState DeliveryEvent)) (state : DeliveryState)
    (release : Release) : DispatchStep → Prop
  | .verifying _ event rest =>
      ∀ name ∈ release.required event.eventType, name ∈ rest ∨ HadReceipt h state event.id name
  | .renewing held none | .completing held none =>
      (∃ p, Seen h state p ∧ p.readEvent held.organizationId held.subjectId = none) ∧
        state.readEvent held.organizationId held.subjectId = none
  | .renewing _ (some event) | .completing _ (some event) =>
      ∀ name ∈ release.required event.eventType, HadReceipt h state event.id name
  | _ => True

/-- What holds of a dispatch after a run with moves `h`. -/
structure DispatchKept (h : List (Move DeliveryState DeliveryEvent)) (state : DeliveryState)
    (dispatch : Dispatch) : Prop where
  work : ∀ id, dispatch.workId = some id → ∃ row ∈ state.items, row.id = id ∧
    row.subjectId = dispatch.subjectId ∧ row.organizationId = dispatch.organizationId
  held : ∀ held, dispatch.step.held = some held → dispatch.workId = some held.id ∧
    held.subjectId = dispatch.subjectId ∧ held.organizationId = dispatch.organizationId
  event : ∀ event, dispatch.step.event = some event → event.id = dispatch.subjectId
  read : ∀ held event, dispatch.step.held = some held → dispatch.step.event = some event →
    ∃ p, Seen h state p ∧ ∃ row ∈ p.events, row.id = event.id ∧ row.eventType = event.eventType
  established : dispatch.step.Established h state dispatch.release

/-- What holds after a run with moves `h`. -/
structure DeliveryKept (h : List (Move DeliveryState DeliveryEvent)) (state : DeliveryState) :
    Prop where
  items : DeliveryItems state.items
  admitted : ∀ row ∈ state.items, ∃ p, Seen h state p ∧ ∃ event ∈ p.events,
    event.id = row.subjectId ∧ event.organizationId = row.organizationId
  eventIds : (state.events.map (·.id)).Nodup
  events : ∀ p, Seen h state p → ∀ event ∈ p.events, ∀ next ∈ state.events, next.id = event.id →
    event.Continues next
  receipts : ∀ p, Seen h state p → ∀ eventId name, hasReceipt p.receipts eventId name = true →
    state.stores eventId = true → hasReceipt state.receipts eventId name = true
  stored : ∀ p, Seen h state p → ∀ eventId name, hasReceipt p.receipts eventId name = true →
    p.stores eventId = true
  dispatches : ∀ dispatch ∈ state.dispatches, DispatchKept h state dispatch

/-- A fact is gone or fenced when a read does not find it. -/
theorem DeliveryState.readEvent_eq_none_iff {organizationId eventId : String} :
    state.readEvent organizationId eventId = none ↔ ∀ event ∈ state.events,
      event.organizationId = organizationId → event.id = eventId →
      event.recoveryFencedAt.isSome = true := by
  unfold DeliveryState.readEvent
  rw [List.find?_eq_none]
  refine forall_congr' fun event ↦ forall_congr' fun _ ↦ ?_
  rw [decide_eq_true_iff, not_and, not_and, ← ne_eq, Option.ne_none_iff_isSome]

section Step

variable {event : DeliveryEvent} (kept : DeliveryKept h state) (read : event.Read (Seen h state))

/-- What was seen stays seen. -/
theorem seen_next {p : DeliveryState} (seen : Seen h state p) :
    Seen (⟨state, event, event.run state⟩ :: h) (event.run state) p := by
  rw [seen_cons_iff]
  exact Or.inr seen

include kept in
/-- Every delivery goes on through an event. -/
theorem DeliveryKept.row_next {row : WorkItem} (mem : row ∈ state.items) :
    ∃ next ∈ (event.run state).items, row.Continues next := by
  have hstep := event.items_run state
  generalize (event.run state).items = items at hstep ⊢
  cases hstep with
  | same => exact ⟨row, mem, .refl row⟩
  | plain work hplain =>
      rw [hplain.run]
      exact ⟨_, List.mem_map_of_mem mem, (kept.items.next hplain mem).2⟩
  | admitted => exact ⟨row, List.mem_cons_of_mem _ mem, .refl row⟩

include read in
/-- A stored fact continues one from before the event, or has an id of its own. -/
theorem fact_next {next : OutboxEvent} (mem : next ∈ (event.run state).events) :
    (∃ row ∈ state.events, OutboxEvent.Continues row next) ∨
      ∀ p, Seen h state p → p.stores next.id = false := by
  rcases event.events_run mem with hcontinues | ⟨eventType, organizationId, rfl⟩
  · exact Or.inl hcontinues
  · exact Or.inr read

include kept read in
/-- What a delivery did not find it will not find. -/
theorem DeliveryKept.readEvent_next {row : WorkItem} (mem : row ∈ state.items)
    (none_found : state.readEvent row.organizationId row.subjectId = none) :
    (event.run state).readEvent row.organizationId row.subjectId = none := by
  rw [DeliveryState.readEvent_eq_none_iff] at none_found ⊢
  intro next hnext horganization hid
  rcases fact_next read hnext with ⟨fact, hfact, hcontinues⟩ | hfresh
  · apply hcontinues.fenced
    apply none_found fact hfact
    · rw [← hcontinues.organizationId, horganization]
    · rw [← hcontinues.id, hid]
  · obtain ⟨p, hseen, fact, hfact, hsame, -⟩ := kept.admitted row mem
    have hstored : p.stores next.id = true :=
      DeliveryState.stores_iff.2 ⟨fact, hfact, hsame.trans hid.symm⟩
    rw [hfresh p hseen] at hstored
    cases hstored

/-- A receipt that was there was there. -/
theorem HadReceipt.next {eventId name : String} (had : HadReceipt h state eventId name) :
    HadReceipt (⟨state, event, event.run state⟩ :: h) (event.run state) eventId name := by
  obtain ⟨p, hseen, hreceipt⟩ := had
  exact ⟨p, seen_next hseen, hreceipt⟩

include kept read in
/-- What holds of a dispatch holds of it after an event that leaves it where it is. -/
theorem DispatchKept.next {dispatch : Dispatch} (holds : DispatchKept h state dispatch) :
    DispatchKept (⟨state, event, event.run state⟩ :: h) (event.run state) dispatch := by
  have hgone : ∀ held, dispatch.step.held = some held →
      (∃ p, Seen h state p ∧ p.readEvent held.organizationId held.subjectId = none) ∧
        state.readEvent held.organizationId held.subjectId = none →
      (∃ p, Seen (⟨state, event, event.run state⟩ :: h) (event.run state) p ∧
        p.readEvent held.organizationId held.subjectId = none) ∧
        (event.run state).readEvent held.organizationId held.subjectId = none := by
    intro held hheld ⟨⟨p, hseen, hp⟩, hnow⟩
    obtain ⟨hwork, hsubject, horganization⟩ := holds.held held hheld
    obtain ⟨row, hrow, -, hrowSubject, hrowOrganization⟩ := holds.work _ hwork
    rw [hsubject, horganization, ← hrowSubject, ← hrowOrganization] at hnow ⊢
    rw [hsubject, horganization, ← hrowSubject, ← hrowOrganization] at hp
    exact ⟨⟨p, seen_next hseen, hp⟩, kept.readEvent_next read hrow hnow⟩
  refine ⟨fun id hid ↦ ?_, holds.held, holds.event, fun held fact hheld hfact ↦ ?_, ?_⟩
  · obtain ⟨row, hrow, hrowId, hsubject, horganization⟩ := holds.work id hid
    have hrow_next : ∃ next ∈ (event.run state).items, row.Continues next := kept.row_next hrow
    obtain ⟨next, hnext, hcontinues⟩ := hrow_next
    exact ⟨next, hnext, hcontinues.id.trans hrowId, hcontinues.subjectId.trans hsubject,
      hcontinues.organizationId.trans horganization⟩
  · obtain ⟨p, hseen, hrow⟩ := holds.read held fact hheld hfact
    exact ⟨p, seen_next hseen, hrow⟩
  · have hestablished := holds.established
    cases hstep : dispatch.step with
    | resolved | claiming | reading | checking | deciding | handling | abandoning | failing | ended =>
        trivial
    | verifying held fact rest =>
        rw [hstep] at hestablished
        exact fun name hname ↦ (hestablished name hname).imp_right HadReceipt.next
    | renewing held fact =>
        rw [hstep] at hestablished
        cases fact with
        | none => exact hgone held (by rw [hstep]; rfl) hestablished
        | some fact => exact fun name hname ↦ (hestablished name hname).next
    | completing held fact =>
        rw [hstep] at hestablished
        cases fact with
        | none => exact hgone held (by rw [hstep]; rfl) hestablished
        | some fact => exact fun name hname ↦ (hestablished name hname).next

/-- An error establishes nothing. -/
theorem raised_established (release : Release) (held : Option HeldWork) (terminal : Bool) :
    (DispatchStep.raised held terminal).Established h state release := by
  cases held <;> trivial

/-- Past its consumers a dispatch has every receipt still to verify. -/
theorem afterConsumers_established (release : Release) (held : Option HeldWork)
    (fact : ReadEvent) : (release.afterConsumers held fact).Established h state release := by
  cases held with
  | none => trivial
  | some held => exact fun name hname ↦ Or.inl hname

/-- A dispatch that has just read a fact has every receipt still to verify. -/
theorem dispatch_established (release : Release) (held : Option HeldWork) (fact : ReadEvent)
    (valid : Bool) : (release.dispatch held fact valid).Established h state release := by
  unfold Release.dispatch
  split
  · exact raised_established release held true
  · split
    · split
      · exact afterConsumers_established release held fact
      · exact raised_established release held false
    · trivial

/-- A step that holds and has read no more than the one before it. -/
theorem DispatchKept.moved {dispatch : Dispatch} (holds : DispatchKept h state dispatch)
    {step : DispatchStep} (connected : Bool)
    (held : ∀ held, step.held = some held → dispatch.step.held = some held)
    (fact : ∀ fact, step.event = some fact → dispatch.step.event = some fact)
    (established : step.Established h state dispatch.release) :
    DispatchKept h state { dispatch with step := step, connected := connected } :=
  ⟨holds.work, fun work hwork ↦ holds.held work (held work hwork),
    fun event hevent ↦ holds.event event (fact event hevent),
    fun work event hwork hevent ↦ holds.read work event (held work hwork) (fact event hevent),
    established⟩

include kept in
/-- The row a claim takes is the row the dispatch is about. -/
theorem DeliveryKept.claimed {dispatch : Dispatch} (holds : DispatchKept h state dispatch)
    {token : Nat} {now : Int} {row : WorkItem}
    (claimed : state.claimed dispatch token now = some row) :
    dispatch.workId = some row.id ∧ row.subjectId = dispatch.subjectId ∧
      row.organizationId = dispatch.organizationId := by
  unfold DeliveryState.claimed at claimed
  obtain ⟨found, hfound, hclaim⟩ := Option.bind_eq_some_iff.1 claimed
  have hmem := List.mem_of_find?_eq_some hfound
  obtain ⟨horganization, hwork⟩ : found.organizationId = dispatch.organizationId ∧
      dispatch.workId = some found.id := by simpa using List.find?_some hfound
  have hcontinues := (WorkItem.claim_spec (kept.items.sound found hmem) hclaim).2.1
  obtain ⟨other, hother, hid, hsubject, -⟩ := holds.work _ hwork
  have hsame : other = found := eq_of_id kept.items.ids hother hmem hid
  rw [hsame] at hsubject
  exact ⟨by rw [hcontinues.id, hwork], hcontinues.subjectId.trans hsubject,
    hcontinues.organizationId.trans horganization⟩

include kept read in
/-- What holds of a dispatch holds of it after its next step. -/
theorem DispatchKept.advance {dispatch : Dispatch} (holds : DispatchKept h state dispatch)
    {step : DispatchStep} (advances : Advances state dispatch step) (connected : Bool) :
    DispatchKept (⟨state, event, event.run state⟩ :: h) (event.run state)
      { dispatch with step := step, connected := connected } := by
  have hnext := holds.next kept read
  have hnow : Seen (⟨state, event, event.run state⟩ :: h) (event.run state) state :=
    seen_next (Seen.self h state)
  cases advances with
  | stays => exact hnext.moved connected (fun _ h ↦ h) (fun _ h ↦ h) hnext.established
  | ends => exact hnext.moved connected (fun _ h ↦ by cases h) (fun _ h ↦ by cases h) trivial
  | acquires => exact hnext.moved connected (fun _ h ↦ by cases h) (fun _ h ↦ by cases h) trivial
  | claims hclaimed =>
      refine ⟨hnext.work, fun held hheld ↦ ?_, fun fact hfact ↦ ?_, fun held fact _ hfact ↦ ?_,
        trivial⟩
      · cases hheld
        exact kept.claimed holds hclaimed
      · cases hfact
      · cases hfact
  | @reads held row valid hstep hread =>
      have hheld : dispatch.step.held = some held := by rw [hstep]; rfl
      have hrow := List.mem_of_find?_eq_some hread
      have hid : row.id = dispatch.subjectId := by
        have hfound : row.organizationId = held.organizationId ∧ row.id = held.subjectId ∧
            row.recoveryFencedAt = none := by simpa using List.find?_some hread
        exact hfound.2.1.trans (holds.held held hheld).2.1
      obtain ⟨hkeeps, hfact⟩ := dispatch_spec dispatch.release (some held) ⟨row.id, row.eventType⟩
        valid
      refine ⟨hnext.work, fun held' hheld' ↦ ?_, fun fact hread' ↦ ?_, fun _ fact _ hread' ↦ ?_,
        dispatch_established ..⟩
      · have hsame : some held = some held' := hkeeps.symm.trans hheld'
        cases hsame
        exact hnext.held held hheld
      · rw [hfact fact hread']
        exact hid
      · rw [hfact fact hread']
        exact ⟨state, hnow, row, hrow, rfl, rfl⟩
  | @findsNone held hstep hread =>
      have hheld : dispatch.step.held = some held := by rw [hstep]; rfl
      obtain ⟨hwork, hsubject, horganization⟩ := holds.held held hheld
      obtain ⟨row, hrow, -, hrowSubject, hrowOrganization⟩ := holds.work _ hwork
      refine hnext.moved connected (fun _ h ↦ by cases h; exact hheld) (fun _ h ↦ by cases h)
        ⟨⟨state, hnow, hread⟩, ?_⟩
      rw [hsubject, horganization, ← hrowSubject, ← hrowOrganization] at hread ⊢
      exact kept.readEvent_next read hrow hread
  | @raises held terminal hheld =>
      refine hnext.moved connected (fun held' h ↦ ?_) (fun fact h ↦ ?_) (raised_established ..)
      · rw [hheld, ← h]
        exact (raised_spec held terminal).1.symm
      · rw [(raised_spec held terminal).2] at h
        cases h
  | gives hheld => exact hnext.moved connected (fun _ h ↦ by cases h; exact hheld) (fun _ h ↦ by cases h) trivial
  | checks hheld hfact | finds hheld hfact | invokes hheld hfact =>
      exact hnext.moved connected (fun _ h ↦ hheld.trans h) (fun _ h ↦ hfact.trans h) trivial
  | @consumed held fact hheld hfact =>
      obtain ⟨hkeeps, hsame⟩ := afterConsumers_spec dispatch.release held fact
      refine hnext.moved connected (fun _ h ↦ ?_) (fun fact' h ↦ ?_)
        (afterConsumers_established ..)
      · rw [hheld, ← h]
        exact hkeeps.symm
      · rw [hfact, hsame fact' h]
  | @verifies held fact name rest hstep hreceipt =>
      refine hnext.moved connected (fun _ h ↦ by rw [hstep]; exact h)
        (fun _ h ↦ by rw [hstep]; exact h) fun other hother ↦ ?_
      have hestablished := hnext.established
      rw [hstep] at hestablished
      rcases hestablished other hother with hrest | hhad
      · rcases List.mem_cons.1 hrest with rfl | hrest
        · exact Or.inr ⟨state, hnow, hreceipt⟩
        · exact Or.inl hrest
      · exact Or.inr hhad
  | @verified held fact hstep =>
      refine hnext.moved connected (fun _ h ↦ by rw [hstep]; exact h)
        (fun _ h ↦ by rw [hstep]; exact h) fun name hname ↦ ?_
      have hestablished := hnext.established
      rw [hstep] at hestablished
      rcases hestablished name hname with hrest | hhad
      · cases hrest
      · exact hhad
  | @renews held fact hstep =>
      have hestablished := hnext.established
      rw [hstep] at hestablished
      refine hnext.moved connected (fun _ h ↦ by rw [hstep]; exact h)
        (fun _ h ↦ by rw [hstep]; exact h) ?_
      cases fact with
      | none => exact hestablished
      | some fact => exact hestablished

/-- What holds of a dispatch that has just started. -/
theorem DispatchKept.of_starts {dispatch : Dispatch} {job : QueueJob} {release : Release}
    (starts : Starts state dispatch job release) : DispatchKept h state dispatch := by
  cases job with
  | work id =>
      obtain ⟨row, hrow, hid, rfl⟩ := starts
      refine ⟨fun id' hid' ↦ ?_, (fun held h ↦ by cases h), (fun fact h ↦ by cases h),
        (fun held fact h ↦ by cases h), trivial⟩
      cases hid'
      exact ⟨row, hrow, hid, rfl, rfl⟩
  | envelope fact valid =>
      have hstarts : dispatch = ⟨release, none, "", fact.id, true,
        release.dispatch none fact valid⟩ := starts
      subst hstarts
      obtain ⟨hkeeps, hfact⟩ := dispatch_spec release none fact valid
      have hnone : ∀ held, (release.dispatch none fact valid).held ≠ some held := fun held hheld ↦ by
        rw [hkeeps] at hheld
        cases hheld
      refine ⟨(fun id h ↦ by cases h), fun held hheld ↦ absurd hheld (hnone held), fun event h ↦ ?_,
        fun held _ hheld ↦ absurd hheld (hnone held), dispatch_established ..⟩
      rw [hfact event h]

include kept read in
/-- One event keeps what holds. -/
theorem DeliveryKept.step :
    DeliveryKept (⟨state, event, event.run state⟩ :: h) (event.run state) := by
  have hitems := event.items_run state
  have hpast : ∀ p, Seen (⟨state, event, event.run state⟩ :: h) (event.run state) p →
      p = event.run state ∨ Seen h state p := fun p hp ↦ (seen_cons_iff _ _ _ _).1 hp
  have hstoredNow : ∀ eventId name, hasReceipt (event.run state).receipts eventId name = true →
      (event.run state).stores eventId = true := fun eventId name ↦
    event.stores_of_hasReceipt (kept.stored state (Seen.self h state))
  have hids : ((event.run state).events.map (·.id)).Nodup := by
    apply event.eventIds_run kept.eventIds
    intro id eventType organizationId hevent
    subst hevent
    exact read state (Seen.self h state)
  refine ⟨?_, fun next hnext ↦ ?_, hids, fun p hp fact hfact next hnext hid ↦ ?_,
    fun p hp eventId name hreceipt hstored ↦ ?_, fun p hp eventId name hreceipt ↦ ?_,
    fun dispatch hdispatch ↦ ?_⟩
  · generalize (event.run state).items = items at hitems ⊢
    cases hitems with
    | same => exact kept.items
    | plain work hplain => exact kept.items.run hplain
    | admitted hadmits => exact kept.items.admitWork hadmits.fresh hadmits.checks hadmits.ids
  · have hold : ∀ row ∈ state.items, row.subjectId = next.subjectId →
        row.organizationId = next.organizationId → ∃ p,
        Seen (⟨state, event, event.run state⟩ :: h) (event.run state) p ∧ ∃ event ∈ p.events,
          event.id = next.subjectId ∧ event.organizationId = next.organizationId := by
      intro row hrow hsubject horganization
      obtain ⟨p, hseen, fact, hfact, hid, hsame⟩ := kept.admitted row hrow
      exact ⟨p, seen_next hseen, fact, hfact, hid.trans hsubject, hsame.trans horganization⟩
    generalize (event.run state).items = items at hitems hnext
    cases hitems with
    | same => exact hold next hnext rfl rfl
    | plain work hplain =>
        rw [hplain.run] at hnext
        obtain ⟨row, hrow, rfl⟩ := List.mem_map.1 hnext
        have hcontinues := (kept.items.next hplain hrow).2
        exact hold row hrow hcontinues.subjectId.symm hcontinues.organizationId.symm
    | admitted =>
        rcases List.mem_cons.1 hnext with rfl | hrow
        · obtain ⟨p, hseen, fact, hfact, hid, horganization, -⟩ := read
          exact ⟨p, seen_next hseen, fact, hfact, hid, horganization⟩
        · exact hold next hrow rfl rfl
  · rcases hpast p hp with rfl | hseen
    · rw [List.inj_on_of_nodup_map hids hnext hfact hid]
      exact .refl fact
    · rcases fact_next read hnext with ⟨row, hrow, hcontinues⟩ | hfresh
      · exact (kept.events p hseen fact hfact row hrow (hcontinues.id.symm.trans hid)).trans
          hcontinues
      · have hstored : p.stores next.id = true :=
          DeliveryState.stores_iff.2 ⟨fact, hfact, hid.symm⟩
        rw [hfresh p hseen] at hstored
        cases hstored
  · rcases hpast p hp with rfl | hseen
    · exact hreceipt
    · have hevent : event ≠ .remove eventId := fun hremove ↦ by
        rw [hremove, not_stores_remove] at hstored
        cases hstored
      refine event.hasReceipt_run (kept.receipts p hseen eventId name hreceipt ?_) hevent
      obtain ⟨next, hnext, hid⟩ := DeliveryState.stores_iff.1 hstored
      rcases fact_next read hnext with ⟨row, hrow, hcontinues⟩ | hfresh
      · exact DeliveryState.stores_iff.2 ⟨row, hrow, hcontinues.id.symm.trans hid⟩
      · have hbefore := kept.stored p hseen eventId name hreceipt
        rw [← hid, hfresh p hseen] at hbefore
        cases hbefore
  · rcases hpast p hp with rfl | hseen
    · exact hstoredNow eventId name hreceipt
    · exact kept.stored p hseen eventId name hreceipt
  · obtain ⟨index, hindex⟩ := List.mem_iff_getElem?.1 hdispatch
    cases event.dispatches_run hindex with
    | same hsame =>
        exact (kept.dispatches dispatch (List.mem_of_getElem? hsame)).next kept read
    | acted action hbefore hadvance =>
        subst hadvance
        exact (kept.dispatches _ (List.mem_of_getElem? hbefore)).advance kept read
          (state.nextStep_advances _ action) _
    | started job release _ hstarts => exact (DispatchKept.of_starts hstarts).next kept read

end Step

/-- What every run keeps. -/
theorem deliveryKept (run : Run outboxDelivery h state) : DeliveryKept h state := by
  induction run with
  | @start state hinit =>
      obtain ⟨hitems, hdispatches, hids, hstored⟩ := hinit
      have hnow : ∀ p, Seen ([] : List (Move DeliveryState DeliveryEvent)) state p → p = state := by
        intro p hp
        rcases hp with rfl | ⟨move, hmove, -⟩
        · rfl
        · cases hmove
      refine ⟨?_, fun row hrow ↦ ?_, hids, fun p hp fact hfact next hnext hid ↦ ?_,
        fun p hp eventId name hreceipt hstored ↦ ?_, fun p hp eventId name hreceipt ↦ ?_,
        fun dispatch hdispatch ↦ ?_⟩
      · rw [hitems]
        constructor <;> first | exact List.nodup_nil | (intro row hrow; cases hrow)
      · rw [hitems] at hrow
        cases hrow
      · rw [hnow p hp] at hfact
        rw [List.inj_on_of_nodup_map hids hnext hfact hid]
        exact .refl fact
      · rw [hnow p hp] at hreceipt
        exact hreceipt
      · rw [hnow p hp] at hreceipt ⊢
        obtain ⟨receipt, hmem, hid, -⟩ := hasReceipt_iff.1 hreceipt
        rw [← hid]
        exact hstored receipt hmem
      · rw [hdispatches] at hdispatch
        cases hdispatch
  | next run hstep ih =>
      obtain ⟨hread, rfl⟩ := hstep
      exact ih.step hread

end Kept

end ReputationKey.Shared
