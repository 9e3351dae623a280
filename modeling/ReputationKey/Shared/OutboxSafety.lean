import ReputationKey.Shared.OutboxRun

/-!
# Outbox delivery over any interleaving

Polls, lost and repeated jobs, crashing dispatches, lease expiry, operators, retention, the recovery
fence and deployments act on the outbox in any order. One delivery per fact, succeeded deliveries
that were justified, and no fact lost while its consumers stay the same.
-/

namespace ReputationKey.Shared

open ReputationKey.Base

section Safety

variable {h : List (Move DeliveryState DeliveryEvent)} {state : DeliveryState}

/-! ## Succeeded deliveries -/

/-- What justifies a success: a dispatch completes the delivery and, when it read, the fact was gone or
fenced, or every consumer its release requires for the fact's type had left its receipt. -/
def SuccessJustified (h : List (Move DeliveryState DeliveryEvent)) (state : DeliveryState)
    (row : WorkItem) : Prop :=
  ∃ dispatch ∈ state.dispatches, ∃ held, held.id = row.id ∧
    (dispatch.step = .completing held none ∧
        (∃ p, Seen h state p ∧ p.readEvent row.organizationId row.subjectId = none) ∨
      ∃ fact, dispatch.step = .completing held (some fact) ∧ fact.id = row.subjectId ∧
        (∃ p, Seen h state p ∧ ∃ event ∈ p.events,
          event.id = fact.id ∧ event.eventType = fact.eventType) ∧
        ∀ name ∈ dispatch.release.required fact.eventType, HadReceipt h state fact.id name)

/-- Only a dispatch that has come to complete its delivery completes it. -/
theorem Dispatch.ledgerEvent_complete {dispatch : Dispatch} {action : DispatchAction}
    {organizationId : String} {id token : Nat} {now : Int}
    (h : dispatch.ledgerEvent action = some (.complete organizationId id token now)) :
    ∃ held fact, action = .complete now ∧ dispatch.step = .completing held fact ∧ held.id = id := by
  unfold Dispatch.ledgerEvent at h
  split at h
  · cases h
  · cases h
  · cases h
  · next held fact hstep =>
    cases h
    exact ⟨held, fact, rfl, hstep, rfl⟩
  · cases h
  · cases h

/-- A row that an event made succeed was completed by a dispatch. -/
theorem DeliveryKept.completed (kept : DeliveryKept h state) (event : DeliveryEvent)
    {row next : WorkItem} (mem : row ∈ state.items) (before : row.state ≠ .succeeded)
    (mem' : next ∈ (event.run state).items) (same : next.id = row.id)
    (after : next.state = .succeeded) :
    ∃ index now dispatch held fact, event = .act index (.complete now) ∧
      state.dispatches[index]? = some dispatch ∧ dispatch.step = .completing held fact ∧
      held.id = row.id := by
  have hstep := event.items_run state
  generalize (event.run state).items = items at hstep mem'
  have hold : next ∈ state.items → next = row := fun h ↦ eq_of_id kept.items.ids h mem same
  cases hstep with
  | same =>
      rw [hold mem'] at after
      exact absurd after before
  | admitted hadmits =>
      rcases List.mem_cons.1 mem' with rfl | hnext
      · cases after
      · rw [hold hnext] at after
        exact absurd after before
  | plain work hplain hcomplete =>
      rw [hplain.run] at mem'
      obtain ⟨other, hother, rfl⟩ := List.mem_map.1 mem'
      have hsame : other = row :=
        eq_of_id kept.items.ids hother mem ((kept.items.next hplain hother).2.id.symm.trans same)
      subst hsame
      obtain ⟨token, now, rfl⟩ := hplain.complete_of_succeeded (kept.items.sound other mem)
        (kept.items.recovery other mem) before after
      obtain ⟨index, action, dispatch, rfl, hdispatch, hledger⟩ := hcomplete _ _ _ _ rfl
      obtain ⟨held, fact, rfl, hstep, hid⟩ := Dispatch.ledgerEvent_complete hledger
      exact ⟨index, now, dispatch, held, fact, rfl, hdispatch, hstep, hid⟩

/-- The row a dispatch holds is its delivery's. -/
theorem DeliveryKept.held_row (kept : DeliveryKept h state) {dispatch : Dispatch}
    (holds : DispatchKept h state dispatch) {held : HeldWork}
    (hheld : dispatch.step.held = some held) {row : WorkItem} (mem : row ∈ state.items)
    (same : held.id = row.id) :
    held.subjectId = row.subjectId ∧ held.organizationId = row.organizationId ∧
      dispatch.subjectId = row.subjectId := by
  obtain ⟨hwork, hsubject, horganization⟩ := holds.held held hheld
  obtain ⟨other, hother, hid, hotherSubject, hotherOrganization⟩ := holds.work _ hwork
  have hrow : other = row := eq_of_id kept.items.ids hother mem (hid.trans same)
  rw [hrow] at hotherSubject hotherOrganization
  exact ⟨by rw [hsubject, hotherSubject], by rw [horganization, hotherOrganization],
    hotherSubject.symm⟩

/-- Every success was justified. -/
theorem succeeded_justified {later earlier : List (Move DeliveryState DeliveryEvent)}
    {m : Move DeliveryState DeliveryEvent} (run : Run outboxDelivery (later ++ m :: earlier) state)
    {row next : WorkItem} (mem : row ∈ m.pre.items) (before : row.state ≠ .succeeded)
    (mem' : next ∈ m.post.items) (same : next.id = row.id) (after : next.state = .succeeded) :
    SuccessJustified earlier m.pre row := by
  obtain ⟨hrun, ⟨-, hpost⟩, -⟩ := run.of_append
  have hkept := deliveryKept hrun
  rw [hpost] at mem'
  obtain ⟨index, now, dispatch, held, fact, -, hdispatch, hstep, hid⟩ :=
    hkept.completed m.event mem before mem' same after
  have hmem := List.mem_of_getElem? hdispatch
  have hholds := hkept.dispatches dispatch hmem
  have hheld : dispatch.step.held = some held := by rw [hstep]; rfl
  obtain ⟨hsubject, horganization, hdispatchSubject⟩ := hkept.held_row hholds hheld mem hid
  have hestablished := hholds.established
  rw [hstep] at hestablished
  refine ⟨dispatch, hmem, held, hid, ?_⟩
  cases fact with
  | none =>
      obtain ⟨⟨p, hseen, hnone⟩, -⟩ := hestablished
      rw [hsubject, horganization] at hnone
      exact Or.inl ⟨hstep, p, hseen, hnone⟩
  | some fact =>
      have hfact : dispatch.step.event = some fact := by rw [hstep]; rfl
      exact Or.inr ⟨fact, hstep, (hholds.event fact hfact).trans hdispatchSubject,
        hholds.read held fact hheld hfact, hestablished⟩

/-! ## Receipts and invocations -/

/-- A dispatch invokes a consumer for a fact. -/
def Invokes (index : Nat) (eventId name : String) (move : Move DeliveryState DeliveryEvent) :
    Prop :=
  move.event = .act index (.decide .allow) ∧ ∃ dispatch held fact rest failed,
    move.pre.dispatches[index]? = some dispatch ∧
      dispatch.step = .deciding held fact name rest failed ∧ fact.id = eventId

/-- What the steps that can go wrong must find. A deployment that requires a consumer anew, and a
completion by a worker whose release does not require one that is required now, find its receipt on
the facts they leave delivered; retention removes no fact that a dispatch works on. -/
def DeliveryEvent.Careful (state : DeliveryState) : DeliveryEvent → Prop
  | .deploy release => ∀ event ∈ state.events, event.recoveryFencedAt = none →
      ∀ row ∈ state.items, row.subjectId = event.id → row.state = .succeeded →
      ∀ name ∈ release.required event.eventType,
        name ∉ state.release.required event.eventType →
        hasReceipt state.receipts event.id name = true
  | .act index (.complete _) => ∀ dispatch held fact, state.dispatches[index]? = some dispatch →
      dispatch.step = .completing held (some fact) →
      ∀ event ∈ state.events, event.id = fact.id → event.recoveryFencedAt = none →
      ∀ name ∈ state.release.required event.eventType,
        name ∉ dispatch.release.required event.eventType →
        hasReceipt state.receipts event.id name = true
  | .remove id => ∀ dispatch ∈ state.dispatches, dispatch.subjectId = id → dispatch.step = .ended
  | _ => True

/-- An error decides about no consumer. -/
theorem raised_ne_deciding (held : Option HeldWork) (terminal : Bool) {held' : Option HeldWork}
    {fact : ReadEvent} {name : String} {rest : List String} {failed : Bool} :
    DispatchStep.raised held terminal ≠ .deciding held' fact name rest failed := by
  intro h
  cases held <;> cases h

/-- Past its consumers a dispatch decides about no consumer. -/
theorem afterConsumers_ne_deciding (release : Release) (held : Option HeldWork)
    (event : ReadEvent) {held' : Option HeldWork} {fact : ReadEvent} {name : String}
    {rest : List String} {failed : Bool} :
    release.afterConsumers held event ≠ .deciding held' fact name rest failed := by
  intro h
  cases held <;> cases h

/-- A dispatch that has just read a fact decides about no consumer yet. -/
theorem dispatch_ne_deciding (release : Release) (held : Option HeldWork) (event : ReadEvent)
    (valid : Bool) {held' : Option HeldWork} {fact : ReadEvent} {name : String}
    {rest : List String} {failed : Bool} :
    release.dispatch held event valid ≠ .deciding held' fact name rest failed := by
  unfold Release.dispatch
  split
  · exact raised_ne_deciding held true
  · split
    · split
      · exact afterConsumers_ne_deciding release held event
      · exact raised_ne_deciding held false
    · exact fun h ↦ by cases h

/-- A step that decides about a consumer has just found it without its receipt. -/
theorem decides_of_advances {dispatch : Dispatch} {step : DispatchStep}
    (advances : Advances state dispatch step) {held : Option HeldWork} {fact : ReadEvent}
    {name : String} {rest : List String} {failed : Bool}
    (decides : step = .deciding held fact name rest failed) :
    dispatch.step = .deciding held fact name rest failed ∨
      hasReceipt state.receipts fact.id name = false := by
  cases advances with
  | stays => exact Or.inl decides
  | finds _ _ hreceipt =>
      cases decides
      exact Or.inr hreceipt
  | reads => exact absurd decides (dispatch_ne_deciding _ _ _ _)
  | raises => exact absurd decides (raised_ne_deciding _ _)
  | consumed => exact absurd decides (afterConsumers_ne_deciding _ _ _)
  | ends | acquires | claims | findsNone | gives | checks | invokes | verifies | verified | renews =>
      cases decides

/-- A dispatch that has ended stays ended. -/
theorem DeliveryState.nextStep_ended {dispatch : Dispatch} (ended : dispatch.step = .ended)
    (action : DispatchAction) : state.nextStep dispatch action = .ended := by
  unfold DeliveryState.nextStep
  rw [ended]
  cases action with
  | decide outcome => cases outcome <;> rfl
  | acquire | claim | read | check | handle | verify | renew | complete | fail | raise | disconnect
  | crash => rfl

/-- A dispatch does not decide about a consumer whose receipt was there when it started: it has
ended, works on another fact, or finds the receipt. -/
def Respects (state : DeliveryState) (index : Nat) (eventId name : String) : Prop :=
  ∀ dispatch, state.dispatches[index]? = some dispatch →
    dispatch.step = .ended ∨ dispatch.subjectId ≠ eventId ∨
      hasReceipt state.receipts eventId name = true ∧ ∀ held fact rest failed,
        dispatch.step ≠ .deciding held fact name rest failed

/-- A step of the run keeps a dispatch from deciding about a consumer that has its receipt. -/
theorem Respects.step (kept : DeliveryKept h state) {event : DeliveryEvent}
    (careful : event.Careful state) {index : Nat} {eventId name : String}
    (started : index < state.dispatches.length) (respects : Respects state index eventId name) :
    Respects (event.run state) index eventId name := by
  intro next hnext
  have hreceipts : ∀ dispatch ∈ state.dispatches, dispatch.step ≠ .ended →
      dispatch.subjectId = eventId → hasReceipt state.receipts eventId name = true →
      hasReceipt (event.run state).receipts eventId name = true := by
    intro dispatch hmem hworks hsubject hreceipt
    apply event.hasReceipt_run hreceipt
    intro hremove
    rw [hremove] at careful
    exact hworks (careful dispatch hmem hsubject)
  cases event.dispatches_run hnext with
  | same hsame =>
      by_cases hended : next.step = .ended
      · exact Or.inl hended
      · rcases respects next hsame with hstep | hsubject | ⟨hreceipt, hdecides⟩
        · exact Or.inl hstep
        · exact Or.inr (Or.inl hsubject)
        · by_cases hsubject : next.subjectId = eventId
          · exact Or.inr (Or.inr ⟨hreceipts next (List.mem_of_getElem? hsame) hended hsubject
              hreceipt, hdecides⟩)
          · exact Or.inr (Or.inl hsubject)
  | started _ _ hindex => omega
  | @acted dispatch action hbefore hadvance =>
      subst hadvance
      have hmem := List.mem_of_getElem? hbefore
      by_cases hended : dispatch.step = .ended
      · exact Or.inl (state.nextStep_ended hended action)
      · by_cases hsubject : dispatch.subjectId = eventId
        · rcases respects dispatch hbefore with hstep | hother | ⟨hreceipt, hdecides⟩
          · exact absurd hstep hended
          · exact absurd hsubject hother
          · refine Or.inr (Or.inr ⟨hreceipts dispatch hmem hended hsubject hreceipt,
              fun held fact rest failed hdeciding ↦ ?_⟩)
            have hadvances := state.nextStep_advances dispatch action
            rcases decides_of_advances hadvances hdeciding with hstep | hmissing
            · exact hdecides held fact rest failed hstep
            · have hread : (DeliveryEvent.act index action).Read (Seen h state) := trivial
              have hkept := (kept.dispatches dispatch hmem).advance kept hread hadvances true
              have hid : fact.id = dispatch.subjectId := by
                apply hkept.event fact
                change (state.advance dispatch action).step.event = some fact
                rw [hdeciding]
                rfl
              rw [hid, hsubject, hreceipt] at hmissing
              cases hmissing
        · exact Or.inr (Or.inl hsubject)

/-- A dispatch that starts respects the receipts that are there. -/
theorem respects_of_start {job : QueueJob} {release : Release} {eventId name : String}
    (receipt : hasReceipt state.receipts eventId name = true) :
    Respects ((DeliveryEvent.start job release).run state) state.dispatches.length eventId name := by
  intro dispatch hdispatch
  have hreceipt := (DeliveryEvent.start job release).hasReceipt_run receipt (fun h ↦ by cases h)
  refine Or.inr (Or.inr ⟨hreceipt, fun held fact rest failed hdeciding ↦ ?_⟩)
  cases (DeliveryEvent.start job release).dispatches_run hdispatch with
  | same hsame =>
      rw [List.getElem?_eq_none (Nat.le_refl _)] at hsame
      cases hsame
  | started _ _ _ hstarts =>
      cases job with
      | work id =>
          obtain ⟨row, -, -, rfl⟩ := hstarts
          cases hdeciding
      | envelope event valid =>
          have hstarts' : dispatch = ⟨release, none, "", event.id, true,
            release.dispatch none event valid⟩ := hstarts
          rw [hstarts'] at hdeciding
          exact absurd hdeciding (dispatch_ne_deciding _ _ _ _)

/-- Dispatches are never forgotten. -/
theorem DeliveryEvent.length_run (event : DeliveryEvent) (state : DeliveryState) :
    state.dispatches.length ≤ (event.run state).dispatches.length := by
  cases event with
  | insert | remove | fence | earlierRelay | enqueue | lose | deploy | expireLeases | dispatchDue
  | operate => exact Nat.le_refl _
  | leaveReceipt receipt =>
      unfold DeliveryEvent.run
      dsimp only
      split <;> exact Nat.le_refl _
  | start job release =>
      change _ ≤ (state.start job release).dispatches.length
      unfold DeliveryState.start
      repeat' split
      all_goals simp
  | act index action =>
      change _ ≤ (state.act index action).dispatches.length
      unfold DeliveryState.act
      split <;> simp
  | admitWork candidate expected id now =>
      change _ ≤ (state.admitWork candidate id now).dispatches.length
      rcases state.admitWork_spec candidate id now with h | ⟨-, h⟩ <;> rw [h]

/-- From its start on a dispatch respects the receipts that were there. -/
theorem respects_since {later earlier : List (Move DeliveryState DeliveryEvent)}
    {m : Move DeliveryState DeliveryEvent} (run : Run outboxDelivery (later ++ m :: earlier) state)
    (careful : ∀ n ∈ later, n.event.Careful n.pre) {job : QueueJob} {release : Release}
    (start : m.event = .start job release)
    (started : m.pre.dispatches.length < m.post.dispatches.length) {eventId name : String}
    (receipt : hasReceipt m.pre.receipts eventId name = true) :
    Respects state m.pre.dispatches.length eventId name ∧
      m.pre.dispatches.length < state.dispatches.length := by
  induction later generalizing state with
  | nil =>
      cases run with
      | @next _ s _ event run hstep =>
          obtain ⟨-, rfl⟩ := hstep
          have hstart : event = .start job release := start
          refine ⟨?_, started⟩
          rw [hstart]
          exact respects_of_start receipt
  | cons n later ih =>
      cases run with
      | next run hstep =>
          obtain ⟨-, rfl⟩ := hstep
          obtain ⟨hrespects, hlength⟩ := ih run fun n hn ↦ careful n (List.mem_cons_of_mem _ hn)
          exact ⟨hrespects.step (deliveryKept run) (careful _ List.mem_cons_self) hlength,
            Nat.lt_of_lt_of_le hlength (DeliveryEvent.length_run ..)⟩

/-- A consumer that has its receipt when a dispatch starts is not invoked by it. -/
theorem not_invoked_again {later earlier : List (Move DeliveryState DeliveryEvent)}
    {m : Move DeliveryState DeliveryEvent} (run : Run outboxDelivery (later ++ m :: earlier) state)
    (careful : ∀ n ∈ later, n.event.Careful n.pre) {job : QueueJob} {release : Release}
    (start : m.event = .start job release)
    (started : m.pre.dispatches.length < m.post.dispatches.length) {eventId name : String}
    (receipt : hasReceipt m.pre.receipts eventId name = true)
    {n : Move DeliveryState DeliveryEvent} (mem : n ∈ later) :
    ¬ Invokes m.pre.dispatches.length eventId name n := by
  rintro ⟨-, dispatch, held, fact, rest, failed, hdispatch, hdeciding, hfact⟩
  obtain ⟨after, before, rfl⟩ := List.append_of_mem mem
  rw [List.append_assoc, List.cons_append] at run
  have hrun := run.of_append.1
  have hcareful : ∀ n ∈ before, n.event.Careful n.pre := fun n hn ↦
    careful n (List.mem_append_right _ (List.mem_cons_of_mem _ hn))
  obtain ⟨hrespects, -⟩ := respects_since hrun hcareful start started receipt
  have hholds := (deliveryKept hrun).dispatches dispatch (List.mem_of_getElem? hdispatch)
  rcases hrespects dispatch hdispatch with hended | hsubject | ⟨-, hdecides⟩
  · rw [hended] at hdeciding
    cases hdeciding
  · have hid := hholds.event fact (by rw [hdeciding]; rfl)
    exact hsubject (hid.symm.trans hfact)
  · exact hdecides held fact rest failed hdeciding

/-! ## No fact is lost -/

/-- A delivered fact that is not fenced has every receipt its type requires now. -/
def Delivered (state : DeliveryState) : Prop :=
  ∀ row ∈ state.items, row.state = .succeeded → ∀ event ∈ state.events,
    event.id = row.subjectId → event.recoveryFencedAt = none →
    ∀ name ∈ state.release.required event.eventType,
      hasReceipt state.receipts event.id name = true

/-- Only a deployment changes the release. -/
theorem DeliveryEvent.release_run (event : DeliveryEvent) (state : DeliveryState) :
    (∃ release, event = .deploy release ∧ (event.run state).release = release) ∨
      (event.run state).release = state.release := by
  cases event with
  | deploy release => exact Or.inl ⟨release, rfl, rfl⟩
  | insert | remove | fence | earlierRelay | enqueue | lose | expireLeases | dispatchDue | operate =>
      exact Or.inr rfl
  | leaveReceipt receipt =>
      right
      unfold DeliveryEvent.run
      dsimp only
      split <;> rfl
  | start job release =>
      right
      change (state.start job release).release = state.release
      unfold DeliveryState.start
      repeat' split
      all_goals rfl
  | act index action =>
      right
      change (state.act index action).release = state.release
      unfold DeliveryState.act
      split <;> rfl
  | admitWork candidate expected id now =>
      right
      change (state.admitWork candidate id now).release = state.release
      rcases state.admitWork_spec candidate id now with h | ⟨-, h⟩ <;> rw [h]

/-- A fact that a dispatch completes has every receipt its type requires now. -/
theorem DeliveryKept.completes (kept : DeliveryKept h state) {index : Nat} {now : Int}
    (careful : (DeliveryEvent.act index (.complete now)).Careful state) {dispatch : Dispatch}
    (mem : state.dispatches[index]? = some dispatch) {held : HeldWork} {fact : Option ReadEvent}
    (step : dispatch.step = .completing held fact) {row : WorkItem} (rowMem : row ∈ state.items)
    (same : held.id = row.id) {event : OutboxEvent} (stored : event ∈ state.events)
    (id : event.id = row.subjectId) (unfenced : event.recoveryFencedAt = none)
    (organization : event.organizationId = row.organizationId) {name : String}
    (required : name ∈ state.release.required event.eventType) :
    hasReceipt state.receipts event.id name = true := by
  have hholds := kept.dispatches dispatch (List.mem_of_getElem? mem)
  have hheld : dispatch.step.held = some held := by rw [step]; rfl
  obtain ⟨hsubject, horganization, hdispatch⟩ := kept.held_row hholds hheld rowMem same
  have hestablished := hholds.established
  rw [step] at hestablished
  cases fact with
  | none =>
      have hgone := DeliveryState.readEvent_eq_none_iff.1 hestablished.2 event stored
        (organization.trans horganization.symm) (id.trans hsubject.symm)
      rw [unfenced] at hgone
      cases hgone
  | some fact =>
      have hread : dispatch.step.event = some fact := by rw [step]; rfl
      have hfact : event.id = fact.id :=
        id.trans (hdispatch.symm.trans (hholds.event fact hread).symm)
      obtain ⟨p, hseen, seenRow, hseenRow, hseenId, hseenType⟩ :=
        hholds.read held fact hheld hread
      have htype : event.eventType = fact.eventType :=
        (kept.events p hseen seenRow hseenRow event stored (hfact.trans hseenId.symm)).eventType.trans
          hseenType
      by_cases hcovered : name ∈ dispatch.release.required event.eventType
      · rw [htype] at hcovered
        obtain ⟨q, hseen', hreceipt⟩ := hestablished name hcovered
        rw [← hfact] at hreceipt
        exact kept.receipts q hseen' event.id name hreceipt
          (DeliveryState.stores_iff.2 ⟨event, stored, rfl⟩)
      · exact careful dispatch held fact mem step event stored hfact unfenced name required hcovered

/-- A careful event keeps delivered facts delivered. -/
theorem Delivered.step (kept : DeliveryKept h state) {event : DeliveryEvent}
    (read : event.Read (Seen h state)) (careful : event.Careful state)
    (delivered : Delivered state) : Delivered (event.run state) := by
  intro next hnext hsucceeded fact hfact hid hunfenced name hname
  have hstep := kept.step read
  -- the delivery was there before the event, and so was its fact
  obtain ⟨row, hrow, hcontinues⟩ : ∃ row ∈ state.items, row.Continues next := by
    have hitems := event.items_run state
    generalize (event.run state).items = items at hitems hnext
    cases hitems with
    | same => exact ⟨next, hnext, .refl next⟩
    | plain work hplain =>
        rw [hplain.run] at hnext
        obtain ⟨row, hrow, rfl⟩ := List.mem_map.1 hnext
        exact ⟨row, hrow, (kept.items.next hplain hrow).2⟩
    | admitted =>
        rcases List.mem_cons.1 hnext with rfl | hrow
        · cases hsucceeded
        · exact ⟨next, hrow, .refl next⟩
  obtain ⟨p, hseen, admitted, hadmitted, hadmittedId, horganization⟩ := kept.admitted row hrow
  have hsubject : fact.id = row.subjectId := hid.trans hcontinues.subjectId
  obtain ⟨before, hbefore, hsame⟩ : ∃ row ∈ state.events, OutboxEvent.Continues row fact := by
    rcases fact_next read hfact with hcontinued | hfresh
    · exact hcontinued
    · have hstored : p.stores fact.id = true :=
        DeliveryState.stores_iff.2 ⟨admitted, hadmitted, hadmittedId.trans hsubject.symm⟩
      rw [hfresh p hseen] at hstored
      cases hstored
  have hbeforeId : before.id = row.subjectId := hsame.id.symm.trans hsubject
  have hbeforeOpen : before.recoveryFencedAt = none := by
    cases hfence : before.recoveryFencedAt with
    | none => rfl
    | some fencedAt =>
        have hfenced := hsame.fenced (by rw [hfence]; rfl)
        rw [hunfenced] at hfenced
        cases hfenced
  -- so it is enough that the receipt was there before
  suffices hreceipt : hasReceipt state.receipts before.id name = true by
    rw [hsame.id]
    exact hstep.receipts state (seen_next (Seen.self h state)) before.id name hreceipt
      (DeliveryState.stores_iff.2 ⟨fact, hfact, hsame.id⟩)
  rw [hsame.eventType] at hname
  by_cases hdone : row.state = .succeeded
  · rcases event.release_run state with ⟨release, rfl, hrelease⟩ | hrelease
    · rw [hrelease] at hname
      by_cases hknown : name ∈ state.release.required before.eventType
      · exact delivered row hrow hdone before hbefore hbeforeId hbeforeOpen name hknown
      · exact careful before hbefore hbeforeOpen row hrow hbeforeId.symm hdone name hname hknown
    · rw [hrelease] at hname
      exact delivered row hrow hdone before hbefore hbeforeId hbeforeOpen name hname
  · obtain ⟨index, now, dispatch, held, read, rfl, hdispatch, hcompleting, hheld⟩ :=
      kept.completed event hrow hdone hnext hcontinues.id hsucceeded
    have hadmittedNow := kept.events p hseen admitted hadmitted before hbefore
      (hbeforeId.trans hadmittedId.symm)
    have hrelease : ((DeliveryEvent.act index (.complete now)).run state).release =
        state.release := by
      rcases (DeliveryEvent.act index (.complete now)).release_run state with
        ⟨release, hdeploy, -⟩ | hrelease
      · cases hdeploy
      · exact hrelease
    rw [hrelease] at hname
    exact kept.completes careful hdispatch hcompleting hrow hheld hbefore hbeforeId hbeforeOpen
      (hadmittedNow.organizationId.trans horganization) hname

/-- In a run of careful events delivered facts stay delivered. -/
theorem delivered_of_run (run : Run outboxDelivery h state)
    (careful : ∀ m ∈ h, m.event.Careful m.pre) : Delivered state := by
  induction run with
  | start hinit =>
      intro row hrow
      rw [hinit.1] at hrow
      cases hrow
  | next run hstep ih =>
      obtain ⟨hread, rfl⟩ := hstep
      exact (ih fun m hm ↦ careful m (List.mem_cons_of_mem _ hm)).step (deliveryKept run) hread
        (careful _ List.mem_cons_self)

/-- A worker's release registers only consumers its catalogue names. -/
def Release.RegistersCatalogued (release : Release) : Prop :=
  ∀ eventType, ∀ name ∈ release.listFor eventType, name ∈ release.durableConsumersFor eventType

/-- A fact that waits for its delivery: the next poll may admit it, or its delivery is unfinished. -/
def AwaitsDelivery (state : DeliveryState) (event : OutboxEvent) : Prop :=
  (∀ now, (∀ expiresAt, event.leaseExpiresAt = some expiresAt → expiresAt ≤ now) →
      event.admissible state.items state.receipts state.release.catalogued now = true) ∨
    ∃ row ∈ state.items, row.subjectId = event.id ∧
      (row.state = .pending ∨ row.state = .running ∨ row.state = .quarantined)

/-- A fact that no operator gave up and that lacks a required receipt awaits its delivery. -/
theorem awaits_of_delivered (kept : DeliveryKept h state) (delivered : Delivered state)
    (catalogued : state.release.RegistersCatalogued) {event : OutboxEvent}
    (stored : event ∈ state.events) (unfenced : event.recoveryFencedAt = none) {name : String}
    (required : name ∈ state.release.required event.eventType)
    (lacks : hasReceipt state.receipts event.id name = false)
    (open_ : ∀ row ∈ state.items, row.subjectId = event.id →
      row.state ≠ .cancelled ∧ row.state ≠ .discarded) : AwaitsDelivery state event := by
  by_cases hrow : ∃ row ∈ state.items, row.subjectId = event.id
  · obtain ⟨row, hmem, hsubject⟩ := hrow
    refine Or.inr ⟨row, hmem, hsubject, ?_⟩
    have hopen := open_ row hmem hsubject
    have hcertain := kept.items.certain row hmem
    have hsettled : row.state ≠ .succeeded := fun hsucceeded ↦ by
      have hreceipt := delivered row hmem hsucceeded event stored hsubject.symm unfenced name required
      rw [lacks] at hreceipt
      cases hreceipt
    cases hstate : row.state with
    | pending => exact Or.inl rfl
    | running => exact Or.inr (Or.inl rfl)
    | quarantined => exact Or.inr (Or.inr rfl)
    | succeeded => exact absurd hstate hsettled
    | uncertain => exact absurd hstate hcertain
    | cancelled => exact absurd hstate hopen.1
    | discarded => exact absurd hstate hopen.2
  · refine Or.inl fun now hlease ↦ ?_
    have hadmitted : (state.items.any fun row ↦ decide (row.organizationId = event.organizationId ∧
        row.kind = outboxDeliveryKind ∧ row.idempotencyKey = event.id)) = false := by
      rw [List.any_eq_false]
      intro row hmem hsame
      refine hrow ⟨row, hmem, ?_⟩
      rw [← kept.items.idempotencyKey row hmem]
      exact (of_decide_eq_true hsame).2.2
    have hexpired : (event.leaseExpiresAt.all fun expiresAt ↦ decide (expiresAt ≤ now)) = true := by
      cases hlast : event.leaseExpiresAt with
      | none => rfl
      | some expiresAt => exact decide_eq_true (hlease expiresAt hlast)
    have hexpected : name ∈ state.release.durableConsumersFor event.eventType := by
      rcases List.mem_append.1 required with hnamed | hregistered
      · exact hnamed
      · exact catalogued event.eventType name hregistered
    obtain ⟨expected, hfiltered, rfl⟩ := List.mem_map.1 hexpected
    obtain ⟨hcatalogue, htype⟩ := List.mem_filter.1 hfiltered
    have hmissing : (state.release.catalogued.any fun row ↦ decide (row.1 = event.eventType) &&
        !hasReceipt state.receipts event.id row.2) = true := by
      rw [List.any_eq_true]
      exact ⟨expected, hcatalogue, by rw [htype, lacks]; rfl⟩
    unfold OutboxEvent.admissible
    rw [unfenced, hexpired, hadmitted, hmissing]
    simp

/-- Outbox delivery over any interleaving of polls, jobs, crashing dispatches, expiry, operators,
retention, fences and deployments. -/
theorem outboxDelivery_safety (run : Run outboxDelivery h state) :
    -- each fact has at most one delivery
    ((state.items.map (·.subjectId)).Nodup ∧
      ∀ row ∈ state.items, row.kind = outboxDeliveryKind ∧ row.idempotencyKey = row.subjectId) ∧
    -- a delivery succeeds only when there was no fact to deliver or every required receipt was there
    (∀ later m earlier, h = later ++ m :: earlier → ∀ row ∈ m.pre.items, row.state ≠ .succeeded →
      ∀ next ∈ m.post.items, next.id = row.id → next.state = .succeeded →
      SuccessJustified earlier m.pre row) ∧
    ((∀ m ∈ h, m.event.Careful m.pre) →
      -- a consumer with its receipt is not invoked again by a dispatch that starts later
      (∀ later m earlier, h = later ++ m :: earlier → ∀ job release,
        m.event = .start job release → m.pre.dispatches.length < m.post.dispatches.length →
        ∀ eventId name, hasReceipt m.pre.receipts eventId name = true →
        ∀ n ∈ later, ¬ Invokes m.pre.dispatches.length eventId name n) ∧
      -- no unfenced fact that lacks a required receipt is lost
      (state.release.RegistersCatalogued →
        ∀ event ∈ state.events, event.recoveryFencedAt = none →
        ∀ name ∈ state.release.required event.eventType,
        hasReceipt state.receipts event.id name = false →
        (∀ row ∈ state.items, row.subjectId = event.id →
          row.state ≠ .cancelled ∧ row.state ≠ .discarded) →
        AwaitsDelivery state event)) := by
  have hkept := deliveryKept run
  refine ⟨⟨hkept.items.subjects, fun row hrow ↦ ⟨hkept.items.kind row hrow,
    hkept.items.idempotencyKey row hrow⟩⟩, ?_, fun hcareful ↦ ⟨?_, ?_⟩⟩
  · intro later m earlier hh row hrow hbefore next hnext hsame hafter
    rw [hh] at run
    exact succeeded_justified run hrow hbefore hnext hsame hafter
  · intro later m earlier hh job release hstart hstarted eventId name hreceipt n hn
    rw [hh] at run hcareful
    exact not_invoked_again run (fun n hn ↦ hcareful n (List.mem_append_left _ hn)) hstart hstarted
      hreceipt hn
  · intro hcatalogued event hevent hunfenced name hname hlacks hopen
    exact awaits_of_delivered hkept (delivered_of_run run hcareful) hcatalogued hevent hunfenced
      hname hlacks hopen

end Safety

/-! ## A consumer that a later release adds -/

section Sample

/-- A release whose catalogue and registrations name one consumer of a fact. -/
def sampleRelease : Release :=
  ⟨[("property.updated", "activity.recent-activity")],
    [("property.updated", "activity.recent-activity")]⟩

/-- The next release: it adds a consumer of the same fact. -/
def sampleNextRelease : Release :=
  ⟨[("property.updated", "activity.recent-activity"), ("property.updated", "portal.health")],
    [("property.updated", "activity.recent-activity"), ("property.updated", "portal.health")]⟩

/-- An empty outbox under the first release. -/
def sampleStart : DeliveryState := ⟨[], [], [], [], [], sampleRelease⟩

/-- A fact with its delivery, as the poll that admits it leaves them. -/
def sampleAdmitted : DeliveryState :=
  (DeliveryEvent.admitWork ⟨"fact", "org", "property.updated"⟩ sampleRelease.catalogued 1 10).run
    ((DeliveryEvent.insert "fact" "property.updated" "org").run sampleStart)

/-- One worker delivers the fact and completes its delivery. -/
def sampleDelivery : List DeliveryEvent :=
  [.enqueue (.work 1), .start (.work 1) sampleRelease, .act 0 .acquire, .act 0 (.claim 7 20),
    .act 0 (.read true), .act 0 .check, .act 0 (.decide .allow),
    .leaveReceipt ⟨"fact", "activity.recent-activity", .applied⟩, .act 0 (.handle true),
    .act 0 .check, .act 0 .verify, .act 0 .verify, .act 0 .verify, .act 0 (.renew 30),
    .act 0 (.complete 40)]

/-- The delivered fact once the next release is deployed. -/
def sampleDeployed : DeliveryState :=
  (sampleDelivery ++ [DeliveryEvent.deploy sampleNextRelease]).foldl DeliveryEvent.run
    sampleAdmitted

/-- A run goes on with events that read nothing. -/
theorem exists_run_foldl {h : List (Move DeliveryState DeliveryEvent)} {state : DeliveryState}
    (run : Run outboxDelivery h state) (events : List DeliveryEvent)
    (free : ∀ event ∈ events, ∀ seen, event.Read seen) :
    ∃ h', Run outboxDelivery h' (events.foldl DeliveryEvent.run state) := by
  induction events generalizing h state with
  | nil => exact ⟨h, run⟩
  | cons event events ih =>
      exact ih (outboxDelivery_next run event (free event List.mem_cons_self _))
        fun other hother ↦ free other (List.mem_cons_of_mem _ hother)

/-- The fact is inserted and admitted. -/
theorem sampleAdmitted_run : ∃ h, Run outboxDelivery h sampleAdmitted := by
  have hstart : Run outboxDelivery [] sampleStart :=
    .start ⟨rfl, rfl, List.nodup_nil, fun receipt h ↦ by cases h⟩
  have hinserted := outboxDelivery_next hstart (.insert "fact" "property.updated" "org") <| by
    rintro p (rfl | ⟨move, hmove, -⟩)
    · rfl
    · cases hmove
  exact ⟨_, outboxDelivery_next hinserted _ ⟨_, Seen.self _ _, _, List.mem_cons_self, rfl, rfl, rfl,
    by decide +kernel⟩⟩

/-- The sample run. -/
theorem sampleDeployed_run : ∃ h, Run outboxDelivery h sampleDeployed := by
  obtain ⟨h, hrun⟩ := sampleAdmitted_run
  refine exists_run_foldl hrun _ fun event hevent seen ↦ ?_
  simp only [sampleDelivery, List.cons_append, List.nil_append, List.mem_cons, List.not_mem_nil,
    or_false] at hevent
  rcases hevent with h | h | h | h | h | h | h | h | h | h | h | h | h | h | h | h <;> subst h <;>
    trivial

theorem outboxDelivery_safety_deployed :
    sampleDeployed.items.map (·.state) = [.succeeded] ∧
      (sampleDeployed.items.map (·.subjectId)).Nodup := by
  obtain ⟨h, hrun⟩ := sampleDeployed_run
  exact ⟨by decide +kernel, (outboxDelivery_safety hrun).1.1⟩

/-- A delivered fact is lost to a consumer that a later release adds: its delivery has succeeded, and
no poll admits it again. -/
theorem deployment_strands_delivered_fact : ∃ h state, Run outboxDelivery h state ∧
    state.release.RegistersCatalogued ∧ ∃ event ∈ state.events, event.recoveryFencedAt = none ∧
      (∃ name ∈ state.release.required event.eventType,
        hasReceipt state.receipts event.id name = false) ∧
      (∀ row ∈ state.items, row.subjectId = event.id →
        row.state ≠ .cancelled ∧ row.state ≠ .discarded) ∧ ¬ AwaitsDelivery state event := by
  obtain ⟨h, hrun⟩ := sampleDeployed_run
  have hfacts : ∃ event ∈ sampleDeployed.events, event.recoveryFencedAt = none ∧
      event.leaseExpiresAt = none ∧ (∃ name ∈ sampleDeployed.release.required event.eventType,
        hasReceipt sampleDeployed.receipts event.id name = false) ∧
      (∀ row ∈ sampleDeployed.items, row.state = .succeeded) ∧
      event.admissible sampleDeployed.items sampleDeployed.receipts
        sampleDeployed.release.catalogued 0 = false := by decide +kernel
  obtain ⟨event, hevent, hunfenced, hlease, hlacks, hsucceeded, hrefused⟩ := hfacts
  have hrelease : sampleDeployed.release = sampleNextRelease := by decide +kernel
  refine ⟨h, sampleDeployed, hrun, ?_, event, hevent, hunfenced, hlacks, fun row hrow _ ↦ ?_, ?_⟩
  · rw [hrelease]
    exact fun _ _ hname ↦ hname
  · rw [hsucceeded row hrow]
    decide
  · rintro (hadmissible | ⟨row, hrow, -, hstate⟩)
    · rw [hadmissible 0 (by rw [hlease]; exact fun _ h ↦ by cases h)] at hrefused
      cases hrefused
    · rw [hsucceeded row hrow] at hstate
      rcases hstate with h | h | h <;> cases h

end Sample

end ReputationKey.Shared
