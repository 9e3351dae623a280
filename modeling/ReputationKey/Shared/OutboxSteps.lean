import ReputationKey.Shared.OutboxDelivery
import ReputationKey.Shared.WorkLedger

/-!
# What one step of outbox delivery does

The delivery rows under the ledger's updates, each table under each event, and a dispatch under each
of its actions, once for everything that is proved about runs.
-/

namespace ReputationKey.Shared

/-! ## Delivery rows -/

/-- A guarded update of rows that a delivery row may meet: it neither inserts nor reads back. -/
def WorkEvent.Plain : WorkEvent → Prop
  | .schedule .. => False
  | .resolveUncertain .. => False
  | _ => True

/-- What holds of the delivery rows. -/
structure DeliveryItems (items : List WorkItem) : Prop where
  sound : ∀ row ∈ items, row.Sound
  recovery : ∀ row ∈ items, row.recovery = .retry
  certain : ∀ row ∈ items, row.state ≠ .uncertain
  kind : ∀ row ∈ items, row.kind = outboxDeliveryKind
  idempotencyKey : ∀ row ∈ items, row.idempotencyKey = row.subjectId
  ids : (items.map (·.id)).Nodup
  subjects : (items.map (·.subjectId)).Nodup

section Items

variable {items : List WorkItem} {event : WorkEvent}

/-- A plain event reads no row back. -/
theorem WorkEvent.Plain.older (plain : event.Plain) (row : WorkItem) : event.Older row := by
  cases event with
  | resolveUncertain => exact plain.elim
  | schedule | claim | renew | complete | fail | expireLeases | dispatchDue | operate => trivial

/-- A plain event updates the rows one by one. -/
theorem WorkEvent.Plain.run (plain : event.Plain) : event.run items = items.map event.next := by
  rw [event.run_eq]
  cases event with
  | schedule => exact plain.elim
  | resolveUncertain => exact plain.elim
  | claim | renew | complete | fail | expireLeases | dispatchDue | operate => rfl

/-- A row that may be retried is never left uncertain. -/
theorem WorkItem.stateAfterRun_ne_uncertain {row : WorkItem} (recovery : row.recovery = .retry)
    (terminal : Bool) : row.stateAfterRun terminal ≠ .uncertain := by
  intro huncertain
  rcases row.stateAfterRun_spec terminal with ⟨-, hreadBack⟩ | ⟨hstate, -⟩ | ⟨hstate, -, -⟩
  · rw [recovery] at hreadBack
    cases hreadBack
  · rw [hstate] at huncertain
    cases huncertain
  · rw [hstate] at huncertain
    cases huncertain

/-- A plain event leaves a row that may be retried certain. -/
theorem WorkEvent.Plain.certain (plain : event.Plain) {row : WorkItem} (sound : row.Sound)
    (recovery : row.recovery = .retry) (certain : row.state ≠ .uncertain) :
    (event.next row).state ≠ .uncertain := by
  by_cases hsame : (event.next row).state = row.state
  · rw [hsame]
    exact certain
  · have heffect := WorkEvent.effect_of_ne sound (plain.older row) hsame
    generalize event.next row = next at heffect ⊢
    cases event with
    | schedule => exact plain.elim
    | resolveUncertain => exact plain.elim
    | claim | renew | dispatchDue =>
        rw [heffect.2.1]
        decide
    | complete =>
        rw [heffect.2.2.2.2.1]
        decide
    | fail | expireLeases =>
        rw [heffect.2.1]
        exact WorkItem.stateAfterRun_ne_uncertain recovery _
    | operate _ _ action =>
        rw [heffect.2.2.2.1]
        cases action <;> decide

/-- Only a completion makes a row succeed. -/
theorem WorkEvent.Plain.complete_of_succeeded (plain : event.Plain) {row : WorkItem}
    (sound : row.Sound) (recovery : row.recovery = .retry) (before : row.state ≠ .succeeded)
    (after : (event.next row).state = .succeeded) :
    ∃ token now, event = .complete row.organizationId row.id token now := by
  have heffect := WorkEvent.effect_of_ne sound (plain.older row) (by rw [after]; exact before.symm)
  generalize event.next row = next at heffect after
  cases event with
  | schedule => exact plain.elim
  | resolveUncertain => exact plain.elim
  | claim | renew | dispatchDue =>
      rw [heffect.2.1] at after
      cases after
  | complete _ _ token now =>
      obtain ⟨horganization, hid, -⟩ := heffect
      exact ⟨token, now, by rw [horganization, hid]⟩
  | fail | expireLeases =>
      rw [heffect.2.1] at after
      have hspec := row.stateAfterRun_spec
      rcases hspec _ with ⟨-, hreadBack⟩ | ⟨hstate, -⟩ | ⟨hstate, -, -⟩
      · rw [recovery] at hreadBack
        cases hreadBack
      · rw [hstate] at after
        cases after
      · rw [hstate] at after
        cases after
  | operate _ _ action =>
      rw [heffect.2.2.2.1] at after
      cases action <;> cases after

/-- A plain event continues every delivery row. -/
theorem DeliveryItems.next (kept : DeliveryItems items) (plain : event.Plain) {row : WorkItem}
    (mem : row ∈ items) : (event.next row).Sound ∧ row.Continues (event.next row) :=
  WorkEvent.next_sound (kept.sound row mem) (plain.older row)

/-- A plain event keeps what holds of the delivery rows. -/
theorem DeliveryItems.run (kept : DeliveryItems items) (plain : event.Plain) :
    DeliveryItems (event.run items) := by
  have hkeys : ∀ row ∈ items, (event.next row).kind = row.kind ∧
      (event.next row).idempotencyKey = row.idempotencyKey := fun row hrow ↦ by
    have hkey := (kept.next plain hrow).2.key
    unfold WorkItem.key at hkey
    exact ⟨congrArg (·.2.1) hkey, congrArg (·.2.2) hkey⟩
  rw [plain.run]
  refine ⟨?_, ?_, ?_, ?_, ?_, ?_, ?_⟩
  · intro next hnext
    obtain ⟨row, hrow, rfl⟩ := List.mem_map.1 hnext
    exact (kept.next plain hrow).1
  · intro next hnext
    obtain ⟨row, hrow, rfl⟩ := List.mem_map.1 hnext
    rw [(kept.next plain hrow).2.recovery]
    exact kept.recovery row hrow
  · intro next hnext
    obtain ⟨row, hrow, rfl⟩ := List.mem_map.1 hnext
    exact plain.certain (kept.sound row hrow) (kept.recovery row hrow) (kept.certain row hrow)
  · intro next hnext
    obtain ⟨row, hrow, rfl⟩ := List.mem_map.1 hnext
    rw [(hkeys row hrow).1]
    exact kept.kind row hrow
  · intro next hnext
    obtain ⟨row, hrow, rfl⟩ := List.mem_map.1 hnext
    rw [(hkeys row hrow).2, (kept.next plain hrow).2.subjectId]
    exact kept.idempotencyKey row hrow
  · have hids : items.map ((·.id) ∘ event.next) = items.map (·.id) :=
      List.map_congr_left fun row hrow ↦ (kept.next plain hrow).2.id
    rw [List.map_map, hids]
    exact kept.ids
  · have hsubjects : items.map ((·.subjectId) ∘ event.next) = items.map (·.subjectId) :=
      List.map_congr_left fun row hrow ↦ (kept.next plain hrow).2.subjectId
    rw [List.map_map, hsubjects]
    exact kept.subjects

/-- An admission that succeeds inserts the row it asks for. -/
theorem scheduleWork_admits {candidate : PendingEvent} {id : Nat} {now : Int}
    {rows : List WorkItem} {row : WorkItem}
    (fresh : admittedElsewhere items candidate = false)
    (scheduled : scheduleWork items (candidate.request now) id now = .ok (rows, row)) :
    rows = (candidate.request now).row id now :: items ∧
      ((candidate.request now).row id now).passesInsertChecks = true ∧
      ∀ other ∈ items, other.id ≠ id := by
  have hnone : findWork items ((candidate.request now).row id now).key = none := by
    unfold findWork
    rw [List.find?_eq_none]
    intro other hother hsame
    unfold admittedElsewhere at fresh
    rw [List.any_eq_false] at fresh
    have hkey : other.key = ((candidate.request now).row id now).key := of_decide_eq_true hsame
    refine fresh other hother (decide_eq_true ?_)
    exact ⟨congrArg (·.2.1) hkey, congrArg (·.2.2) hkey⟩
  unfold scheduleWork at scheduled
  rw [hnone] at scheduled
  cases hchecks : ((candidate.request now).row id now).passesInsertChecks with
  | false => simp [hchecks] at scheduled
  | true =>
      cases hid : items.any fun other ↦ decide (other.id = id) with
      | true => simp [hchecks, hid] at scheduled
      | false =>
          simp only [hchecks, hid, Bool.true_eq_false, Bool.false_eq_true, if_false] at scheduled
          cases scheduled
          refine ⟨rfl, rfl, fun other hother hsame ↦ ?_⟩
          rw [List.any_eq_false] at hid
          exact hid other hother (decide_eq_true hsame)

/-- An admission keeps what holds of the delivery rows. -/
theorem DeliveryItems.admitWork (kept : DeliveryItems items) {candidate : PendingEvent} {id : Nat}
    {now : Int} (fresh : admittedElsewhere items candidate = false)
    (checks : ((candidate.request now).row id now).passesInsertChecks = true)
    (ids : ∀ other ∈ items, other.id ≠ id) :
    DeliveryItems ((candidate.request now).row id now :: items) := by
  refine ⟨?_, ?_, ?_, ?_, ?_, ?_, ?_⟩
  · exact List.forall_mem_cons.2 ⟨WorkRequest.row_sound checks, kept.sound⟩
  · exact List.forall_mem_cons.2 ⟨rfl, kept.recovery⟩
  · exact List.forall_mem_cons.2 ⟨by simp [WorkRequest.row], kept.certain⟩
  · exact List.forall_mem_cons.2 ⟨rfl, kept.kind⟩
  · exact List.forall_mem_cons.2 ⟨rfl, kept.idempotencyKey⟩
  · refine List.nodup_cons.2 ⟨fun hmem ↦ ?_, kept.ids⟩
    obtain ⟨other, hother, hsame⟩ := List.mem_map.1 hmem
    exact ids other hother hsame
  · refine List.nodup_cons.2 ⟨fun hmem ↦ ?_, kept.subjects⟩
    obtain ⟨other, hother, hsame⟩ := List.mem_map.1 hmem
    unfold admittedElsewhere at fresh
    rw [List.any_eq_false] at fresh
    refine fresh other hother (decide_eq_true ⟨kept.kind other hother, ?_⟩)
    rw [kept.idempotencyKey other hother]
    exact hsame

end Items

/-! ## What one event does to each table -/

/-- What an update keeps of a stored fact: a fence is never lifted. -/
structure OutboxEvent.Continues (event next : OutboxEvent) : Prop where
  id : next.id = event.id
  eventType : next.eventType = event.eventType
  organizationId : next.organizationId = event.organizationId
  fenced : event.recoveryFencedAt.isSome = true → next.recoveryFencedAt.isSome = true

/-- A fact continues itself. -/
theorem OutboxEvent.Continues.refl (event : OutboxEvent) : event.Continues event :=
  ⟨rfl, rfl, rfl, fun h ↦ h⟩

/-- Updates compose. -/
theorem OutboxEvent.Continues.trans {first second third : OutboxEvent}
    (h : first.Continues second) (h' : second.Continues third) : first.Continues third :=
  ⟨h'.id.trans h.id, h'.eventType.trans h.eventType, h'.organizationId.trans h.organizationId,
    fun hfenced ↦ h'.fenced (h.fenced hfenced)⟩

section Tables

variable {state : DeliveryState}

/-- An admission that succeeds: the row it inserts and the fact it publishes. -/
structure Admits (state : DeliveryState) (candidate : PendingEvent) (id : Nat) (now : Int) :
    Prop where
  stores : state.stores candidate.id = true
  fresh : admittedElsewhere state.items candidate = false
  checks : ((candidate.request now).row id now).passesInsertChecks = true
  ids : ∀ other ∈ state.items, other.id ≠ id

/-- An admission inserts its row and publishes its fact, or does nothing. -/
theorem DeliveryState.admitWork_spec (state : DeliveryState) (candidate : PendingEvent) (id : Nat)
    (now : Int) :
    state.admitWork candidate id now = state ∨
      Admits state candidate id now ∧ state.admitWork candidate id now = { state with
        items := (candidate.request now).row id now :: state.items
        events := state.events.map fun row ↦
          if row.id = candidate.id then row.admitted now else row } := by
  unfold DeliveryState.admitWork
  by_cases hguard : state.stores candidate.id = true ∧
      admittedElsewhere state.items candidate = false
  · rw [if_pos hguard]
    cases hschedule : scheduleWork state.items (candidate.request now) id now with
    | error => exact Or.inl rfl
    | ok scheduled =>
        obtain ⟨rows, row⟩ := scheduled
        obtain ⟨rfl, hchecks, hids⟩ := scheduleWork_admits hguard.2 hschedule
        exact Or.inr ⟨⟨hguard.1, hguard.2, hchecks, hids⟩, rfl⟩
  · rw [if_neg hguard]
    exact Or.inl rfl

/-- What a dispatch does to the ledger is plain. -/
theorem Dispatch.ledgerEvent_plain {dispatch : Dispatch} {action : DispatchAction}
    {event : WorkEvent} (h : dispatch.ledgerEvent action = some event) : event.Plain := by
  unfold Dispatch.ledgerEvent at h
  split at h
  all_goals first | (cases h; trivial) | cases h

/-- The state a step of a dispatch leaves. -/
theorem DeliveryState.act_of_some {index : Nat} {dispatch : Dispatch}
    (h : state.dispatches[index]? = some dispatch) (action : DispatchAction) :
    state.act index action = { state with
      items := ((dispatch.ledgerEvent action).map fun event ↦ event.run state.items).getD
        state.items
      receipts := ((dispatch.denialReceipt action).map fun receipt ↦
        if state.stores receipt.eventId = true then insertReceipt state.receipts receipt
        else state.receipts).getD state.receipts
      dispatches := state.dispatches.set index { dispatch with
        step := state.nextStep dispatch action
        connected := dispatch.connected && decide (action ≠ .disconnect) } } := by
  unfold DeliveryState.act
  rw [h]

/-- A step of no dispatch does nothing. -/
theorem DeliveryState.act_of_none {index : Nat} (h : state.dispatches[index]? = none)
    (action : DispatchAction) : state.act index action = state := by
  unfold DeliveryState.act
  rw [h]

/-- What an event does to the delivery rows: a plain update, an admission, or nothing. -/
inductive ItemsStep (state : DeliveryState) : DeliveryEvent → List WorkItem → Prop
  | same {event : DeliveryEvent} : ItemsStep state event state.items
  | plain {event : DeliveryEvent} (work : WorkEvent) : work.Plain →
      (∀ organizationId id token now, work = .complete organizationId id token now →
        ∃ index action dispatch, event = .act index action ∧
          state.dispatches[index]? = some dispatch ∧ dispatch.ledgerEvent action = some work) →
      ItemsStep state event (work.run state.items)
  | admitted {candidate : PendingEvent} {expected : List (String × String)} {id : Nat} {now : Int} :
      Admits state candidate id now →
      ItemsStep state (.admitWork candidate expected id now)
        ((candidate.request now).row id now :: state.items)

/-- What each event does to the delivery rows. -/
theorem DeliveryEvent.items_run (event : DeliveryEvent) (state : DeliveryState) :
    ItemsStep state event (event.run state).items := by
  cases event with
  | insert | remove | fence | earlierRelay | enqueue | lose | deploy => exact .same
  | leaveReceipt receipt =>
      unfold DeliveryEvent.run
      dsimp only
      split <;> exact .same
  | start job release =>
      change ItemsStep state _ (state.start job release).items
      unfold DeliveryState.start
      repeat' split
      all_goals exact .same
  | admitWork candidate expected id now =>
      rcases state.admitWork_spec candidate id now with h | ⟨hadmits, h⟩
      · change ItemsStep state _ (state.admitWork candidate id now).items
        rw [h]
        exact .same
      · change ItemsStep state _ (state.admitWork candidate id now).items
        rw [h]
        exact .admitted hadmits
  | act index action =>
      change ItemsStep state _ (state.act index action).items
      cases hdispatch : state.dispatches[index]? with
      | none =>
          rw [DeliveryState.act_of_none hdispatch]
          exact .same
      | some dispatch =>
          rw [DeliveryState.act_of_some hdispatch]
          cases hevent : dispatch.ledgerEvent action with
          | none => exact .same
          | some work =>
              exact .plain work (Dispatch.ledgerEvent_plain hevent) fun _ _ _ _ _ ↦
                ⟨index, action, dispatch, rfl, hdispatch, hevent⟩
  | expireLeases available now =>
      exact .plain (.expireLeases (fun id ↦ available id && !state.locked id) now) trivial
        (fun _ _ _ _ h ↦ by cases h)
  | dispatchDue picked cutoff now =>
      exact .plain (.dispatchDue picked cutoff now) trivial (fun _ _ _ _ h ↦ by cases h)
  | operate organizationId id action operatorId reason now =>
      exact .plain (.operate organizationId id action operatorId reason now) trivial
        (fun _ _ _ _ h ↦ by cases h)

/-- Every stored fact after an event continues one from before it, or was just inserted. -/
theorem DeliveryEvent.events_run (event : DeliveryEvent) {next : OutboxEvent}
    (mem : next ∈ (event.run state).events) :
    (∃ row ∈ state.events, OutboxEvent.Continues row next) ∨
      ∃ eventType organizationId, event = .insert next.id eventType organizationId := by
  have hmapped : ∀ f : OutboxEvent → OutboxEvent, (∀ row, OutboxEvent.Continues row (f row)) →
      next ∈ state.events.map f → ∃ row ∈ state.events, OutboxEvent.Continues row next := by
    intro f hf hnext
    obtain ⟨row, hrow, rfl⟩ := List.mem_map.1 hnext
    exact ⟨row, hrow, hf row⟩
  have hsame : next ∈ state.events → ∃ row ∈ state.events, OutboxEvent.Continues row next :=
    fun hnext ↦ ⟨next, hnext, .refl next⟩
  cases event with
  | insert id eventType organizationId =>
      rcases List.mem_cons.1 mem with rfl | hnext
      · exact Or.inr ⟨eventType, organizationId, rfl⟩
      · exact Or.inl (hsame hnext)
  | remove id => exact Or.inl (hsame (List.mem_filter.1 mem).1)
  | fence now =>
      refine Or.inl (hmapped _ (fun row ↦ ?_) mem)
      split
      · exact ⟨rfl, rfl, rfl, fun _ ↦ rfl⟩
      · exact .refl row
  | earlierRelay id publishedAt leaseExpiresAt =>
      refine Or.inl (hmapped _ (fun row ↦ ?_) mem)
      split
      · exact ⟨rfl, rfl, rfl, fun h ↦ h⟩
      · exact .refl row
  | enqueue | lose | expireLeases | dispatchDue | operate | deploy => exact Or.inl (hsame mem)
  | leaveReceipt receipt =>
      unfold DeliveryEvent.run at mem
      dsimp only at mem
      split at mem <;> exact Or.inl (hsame mem)
  | start job release =>
      change next ∈ (state.start job release).events at mem
      unfold DeliveryState.start at mem
      repeat' split at mem
      all_goals exact Or.inl (hsame mem)
  | act index action =>
      change next ∈ (state.act index action).events at mem
      unfold DeliveryState.act at mem
      split at mem <;> exact Or.inl (hsame mem)
  | admitWork candidate expected id now =>
      change next ∈ (state.admitWork candidate id now).events at mem
      rcases state.admitWork_spec candidate id now with h | ⟨-, h⟩
      · rw [h] at mem
        exact Or.inl (hsame mem)
      · rw [h] at mem
        refine Or.inl (hmapped _ (fun row ↦ ?_) mem)
        split
        · exact ⟨rfl, rfl, rfl, fun h ↦ h⟩
        · exact .refl row

/-- A receipt is there when one for the fact and the consumer is. -/
theorem hasReceipt_iff {receipts : List ConsumerReceipt} {eventId name : String} :
    hasReceipt receipts eventId name = true ↔
      ∃ receipt ∈ receipts, receipt.eventId = eventId ∧ receipt.consumerName = name := by
  unfold hasReceipt
  rw [List.any_eq_true]
  exact exists_congr fun receipt ↦ and_congr_right fun _ ↦ decide_eq_true_iff

/-- A fact is stored when one with its id is. -/
theorem DeliveryState.stores_iff {eventId : String} :
    state.stores eventId = true ↔ ∃ event ∈ state.events, event.id = eventId := by
  unfold DeliveryState.stores
  rw [List.any_eq_true]
  exact exists_congr fun event ↦ and_congr_right fun _ ↦ decide_eq_true_iff

/-- Leaving a receipt keeps the others. -/
theorem hasReceipt_insertReceipt {receipts : List ConsumerReceipt} {eventId name : String}
    (receipt : ConsumerReceipt) (h : hasReceipt receipts eventId name = true) :
    hasReceipt (insertReceipt receipts receipt) eventId name = true := by
  unfold insertReceipt
  split
  · exact h
  · rw [hasReceipt_iff] at h ⊢
    obtain ⟨other, hother, hsame⟩ := h
    exact ⟨other, List.mem_cons_of_mem _ hother, hsame⟩

/-- A receipt that was not there is the one that was left. -/
theorem hasReceipt_of_insertReceipt {receipts : List ConsumerReceipt} {eventId name : String}
    {receipt : ConsumerReceipt} (h : hasReceipt (insertReceipt receipts receipt) eventId name = true) :
    hasReceipt receipts eventId name = true ∨ receipt.eventId = eventId := by
  unfold insertReceipt at h
  split at h
  · exact Or.inl h
  · rw [hasReceipt_iff] at h
    obtain ⟨other, hother, hsame⟩ := h
    rcases List.mem_cons.1 hother with rfl | hother
    · exact Or.inr hsame.1
    · exact Or.inl (hasReceipt_iff.2 ⟨other, hother, hsame⟩)

/-- What an event does to the receipts: one is left for a stored fact, those of a removed fact leave
with it, or nothing. -/
inductive ReceiptsStep (state : DeliveryState) : DeliveryEvent → List ConsumerReceipt → Prop
  | same {event : DeliveryEvent} : ReceiptsStep state event state.receipts
  | left {event : DeliveryEvent} (receipt : ConsumerReceipt) :
      state.stores receipt.eventId = true →
      ReceiptsStep state event (insertReceipt state.receipts receipt)
  | removed (id : String) :
      ReceiptsStep state (.remove id)
        (state.receipts.filter fun receipt ↦ decide (receipt.eventId ≠ id))

/-- What each event does to the receipts. -/
theorem DeliveryEvent.receipts_run (event : DeliveryEvent) (state : DeliveryState) :
    ReceiptsStep state event (event.run state).receipts := by
  cases event with
  | insert | fence | earlierRelay | enqueue | lose | deploy | expireLeases | dispatchDue | operate =>
      exact .same
  | remove id => exact .removed id
  | leaveReceipt receipt =>
      unfold DeliveryEvent.run
      dsimp only
      split
      · next hstored => exact .left receipt hstored
      · exact .same
  | start job release =>
      change ReceiptsStep state _ (state.start job release).receipts
      unfold DeliveryState.start
      repeat' split
      all_goals exact .same
  | admitWork candidate expected id now =>
      change ReceiptsStep state _ (state.admitWork candidate id now).receipts
      rcases state.admitWork_spec candidate id now with h | ⟨-, h⟩ <;> rw [h] <;> exact .same
  | act index action =>
      change ReceiptsStep state _ (state.act index action).receipts
      cases hdispatch : state.dispatches[index]? with
      | none =>
          rw [DeliveryState.act_of_none hdispatch]
          exact .same
      | some dispatch =>
          rw [DeliveryState.act_of_some hdispatch]
          cases hreceipt : dispatch.denialReceipt action with
          | none => exact .same
          | some receipt =>
              by_cases hstored : state.stores receipt.eventId = true
              · simp only [Option.map_some, Option.getD_some, if_pos hstored]
                exact .left receipt hstored
              · simp only [Option.map_some, Option.getD_some, if_neg hstored]
                exact .same

/-- A fact stays stored unless it is removed. -/
theorem DeliveryEvent.stores_run (event : DeliveryEvent) {eventId : String}
    (stored : state.stores eventId = true) (kept : event ≠ .remove eventId) :
    (event.run state).stores eventId = true := by
  rw [DeliveryState.stores_iff] at stored ⊢
  obtain ⟨row, hrow, hid⟩ := stored
  have hmapped : ∀ f : OutboxEvent → OutboxEvent, (∀ row, (f row).id = row.id) →
      ∃ row ∈ state.events.map f, row.id = eventId := fun f hf ↦
    ⟨f row, List.mem_map_of_mem hrow, (hf row).trans hid⟩
  cases event with
  | insert id eventType organizationId => exact ⟨row, List.mem_cons_of_mem _ hrow, hid⟩
  | remove id =>
      refine ⟨row, List.mem_filter.2 ⟨hrow, decide_eq_true fun hsame ↦ kept ?_⟩, hid⟩
      rw [← hsame, hid]
  | fence now =>
      apply hmapped
      intro row
      split <;> rfl
  | earlierRelay id publishedAt leaseExpiresAt =>
      apply hmapped
      intro row
      split <;> rfl
  | enqueue | lose | expireLeases | dispatchDue | operate | deploy => exact ⟨row, hrow, hid⟩
  | leaveReceipt receipt =>
      unfold DeliveryEvent.run
      dsimp only
      split <;> exact ⟨row, hrow, hid⟩
  | start job release =>
      change ∃ row ∈ (state.start job release).events, row.id = eventId
      unfold DeliveryState.start
      repeat' split
      all_goals exact ⟨row, hrow, hid⟩
  | act index action =>
      change ∃ row ∈ (state.act index action).events, row.id = eventId
      unfold DeliveryState.act
      split <;> exact ⟨row, hrow, hid⟩
  | admitWork candidate expected id now =>
      change ∃ row ∈ (state.admitWork candidate id now).events, row.id = eventId
      rcases state.admitWork_spec candidate id now with h | ⟨-, h⟩
      · rw [h]
        exact ⟨row, hrow, hid⟩
      · rw [h]
        apply hmapped
        intro row
        split <;> rfl

/-- Ids of facts stay unique while an inserted fact gets an id of its own. -/
theorem DeliveryEvent.eventIds_run (event : DeliveryEvent)
    (unique : (state.events.map (·.id)).Nodup)
    (fresh : ∀ id eventType organizationId, event = .insert id eventType organizationId →
      state.stores id = false) : ((event.run state).events.map (·.id)).Nodup := by
  have hmapped : ∀ f : OutboxEvent → OutboxEvent, (∀ row, (f row).id = row.id) →
      ((state.events.map f).map (·.id)).Nodup := fun f hf ↦ by
    have hids : state.events.map ((·.id) ∘ f) = state.events.map (·.id) :=
      List.map_congr_left fun row _ ↦ hf row
    rw [List.map_map, hids]
    exact unique
  cases event with
  | insert id eventType organizationId =>
      refine List.nodup_cons.2 ⟨fun hmem ↦ ?_, unique⟩
      obtain ⟨row, hrow, hid⟩ := List.mem_map.1 hmem
      have hstored : state.stores id = true := DeliveryState.stores_iff.2 ⟨row, hrow, hid⟩
      rw [fresh _ _ _ rfl] at hstored
      cases hstored
  | remove id => exact unique.sublist (List.filter_sublist.map _)
  | fence now =>
      apply hmapped
      intro row
      split <;> rfl
  | earlierRelay id publishedAt leaseExpiresAt =>
      apply hmapped
      intro row
      split <;> rfl
  | enqueue | lose | expireLeases | dispatchDue | operate | deploy => exact unique
  | leaveReceipt receipt =>
      unfold DeliveryEvent.run
      dsimp only
      split <;> exact unique
  | start job release =>
      change ((state.start job release).events.map (·.id)).Nodup
      unfold DeliveryState.start
      repeat' split
      all_goals exact unique
  | act index action =>
      change ((state.act index action).events.map (·.id)).Nodup
      unfold DeliveryState.act
      split <;> exact unique
  | admitWork candidate expected id now =>
      change ((state.admitWork candidate id now).events.map (·.id)).Nodup
      rcases state.admitWork_spec candidate id now with h | ⟨-, h⟩
      · rw [h]
        exact unique
      · rw [h]
        apply hmapped
        intro row
        split <;> rfl

/-- A removed fact is not stored. -/
theorem not_stores_remove (id : String) :
    ((DeliveryEvent.remove id).run state).stores id = false := by
  cases hstored : ((DeliveryEvent.remove id).run state).stores id with
  | false => rfl
  | true =>
      obtain ⟨row, hrow, hid⟩ := DeliveryState.stores_iff.1 hstored
      exact absurd hid (of_decide_eq_true (List.mem_filter.1 hrow).2)

/-- Receipts of stored facts stay. -/
theorem DeliveryEvent.hasReceipt_run (event : DeliveryEvent) {eventId name : String}
    (h : hasReceipt state.receipts eventId name = true) (kept : event ≠ .remove eventId) :
    hasReceipt (event.run state).receipts eventId name = true := by
  have hstep := event.receipts_run state
  generalize (event.run state).receipts = receipts at hstep ⊢
  cases hstep with
  | same => exact h
  | left receipt => exact hasReceipt_insertReceipt receipt h
  | removed id =>
      rw [hasReceipt_iff] at h ⊢
      obtain ⟨receipt, hreceipt, hid, hname⟩ := h
      refine ⟨receipt, List.mem_filter.2 ⟨hreceipt, decide_eq_true fun hsame ↦ kept ?_⟩, hid, hname⟩
      rw [← hsame, hid]

/-- Every receipt is for a stored fact. -/
theorem DeliveryEvent.stores_of_hasReceipt (event : DeliveryEvent)
    (stored : ∀ eventId name, hasReceipt state.receipts eventId name = true →
      state.stores eventId = true) {eventId name : String}
    (h : hasReceipt (event.run state).receipts eventId name = true) :
    (event.run state).stores eventId = true := by
  have hstep := event.receipts_run state
  by_cases hremoved : event = .remove eventId
  · subst hremoved
    have hfiltered : hasReceipt (state.receipts.filter fun receipt ↦
        decide (receipt.eventId ≠ eventId)) eventId name = true := h
    obtain ⟨receipt, hreceipt, hid, -⟩ := hasReceipt_iff.1 hfiltered
    exact absurd hid (of_decide_eq_true (List.mem_filter.1 hreceipt).2)
  · refine event.stores_run ?_ hremoved
    generalize (event.run state).receipts = receipts at hstep h
    cases hstep with
    | same => exact stored eventId name h
    | left receipt hreceipt =>
        rcases hasReceipt_of_insertReceipt h with hbefore | hsame
        · exact stored eventId name hbefore
        · rw [← hsame]
          exact hreceipt
    | removed id =>
        obtain ⟨receipt, hreceipt, hsame⟩ := hasReceipt_iff.1 h
        exact stored eventId name (hasReceipt_iff.2 ⟨receipt, (List.mem_filter.1 hreceipt).1, hsame⟩)

/-- A dispatch as a worker starts it. -/
def Starts (state : DeliveryState) (dispatch : Dispatch) : QueueJob → Release → Prop
  | .work id, release => ∃ row ∈ state.items, row.id = id ∧
      dispatch = ⟨release, some id, row.organizationId, row.subjectId, true, .resolved⟩
  | .envelope event valid, release =>
      dispatch = ⟨release, none, "", event.id, true, release.dispatch none event valid⟩

/-- A dispatch after its next step. -/
def DeliveryState.advance (state : DeliveryState) (dispatch : Dispatch) (action : DispatchAction) :
    Dispatch :=
  { dispatch with
    step := state.nextStep dispatch action
    connected := dispatch.connected && decide (action ≠ .disconnect) }

/-- A dispatch after an event: as it was, one step further, or just started. -/
inductive DispatchesStep (state : DeliveryState) (index : Nat) (next : Dispatch) :
    DeliveryEvent → Prop
  | same {event : DeliveryEvent} :
      state.dispatches[index]? = some next → DispatchesStep state index next event
  | acted {dispatch : Dispatch} (action : DispatchAction) :
      state.dispatches[index]? = some dispatch → next = state.advance dispatch action →
      DispatchesStep state index next (.act index action)
  | started (job : QueueJob) (release : Release) :
      index = state.dispatches.length → Starts state next job release →
      DispatchesStep state index next (.start job release)

/-- What each event does to the dispatches. -/
theorem DeliveryEvent.dispatches_run (event : DeliveryEvent) {index : Nat} {next : Dispatch}
    (h : (event.run state).dispatches[index]? = some next) :
    DispatchesStep state index next event := by
  cases event with
  | insert | remove | fence | earlierRelay | enqueue | lose | deploy | expireLeases | dispatchDue
  | operate => exact .same h
  | leaveReceipt receipt =>
      unfold DeliveryEvent.run at h
      dsimp only at h
      split at h <;> exact .same h
  | admitWork candidate expected id now =>
      change (state.admitWork candidate id now).dispatches[index]? = some next at h
      rcases state.admitWork_spec candidate id now with hadmits | ⟨-, hadmits⟩ <;> rw [hadmits] at h <;>
        exact .same h
  | act acting action =>
      change (state.act acting action).dispatches[index]? = some next at h
      cases hdispatch : state.dispatches[acting]? with
      | none =>
          rw [DeliveryState.act_of_none hdispatch] at h
          exact .same h
      | some dispatch =>
          rw [DeliveryState.act_of_some hdispatch, List.getElem?_set] at h
          by_cases hsame : acting = index
          · subst hsame
            have hlt := (List.getElem?_eq_some_iff.1 hdispatch).1
            simp only [if_true, hlt] at h
            cases h
            exact .acted action hdispatch rfl
          · rw [if_neg hsame] at h
            exact .same h
  | start job release =>
      change (state.start job release).dispatches[index]? = some next at h
      have happended : ∀ dispatch, Starts state dispatch job release →
          (state.dispatches ++ [dispatch])[index]? = some next →
          DispatchesStep state index next (.start job release) := by
        intro dispatch hstarts hnext
        rcases Nat.lt_or_ge index state.dispatches.length with hlt | hge
        · rw [List.getElem?_append_left hlt] at hnext
          exact .same hnext
        · rw [List.getElem?_append_right hge, List.getElem?_singleton] at hnext
          split at hnext
          · cases hnext
            exact .started job release (by omega) hstarts
          · cases hnext
      unfold DeliveryState.start at h
      split at h
      · cases job with
        | work id =>
            dsimp only at h
            split at h
            · exact .same h
            · next row hrow =>
              split at h
              · exact .same h
              · refine happended _ ⟨row, List.mem_of_find?_eq_some hrow, ?_, rfl⟩ h
                simpa using List.find?_some hrow
        | envelope event valid => exact happended _ rfl h
      · exact .same h

end Tables

/-! ## Where a dispatch may be -/

/-- The delivery a dispatch holds at a step. -/
def DispatchStep.held : DispatchStep → Option HeldWork
  | .resolved | .claiming | .ended => none
  | .reading held => some held
  | .checking held .. => held
  | .deciding held .. => held
  | .handling held .. => held
  | .verifying held .. => some held
  | .renewing held _ => some held
  | .completing held _ => some held
  | .abandoning held _ => some held
  | .failing held _ => some held

/-- The fact a dispatch has read at a step. -/
def DispatchStep.event : DispatchStep → Option ReadEvent
  | .checking _ event .. => some event
  | .deciding _ event .. => some event
  | .handling _ event .. => some event
  | .verifying _ event _ => some event
  | .renewing _ event => event
  | .completing _ event => event
  | _ => none

section Steps

variable (state : DeliveryState) {dispatch : Dispatch} {action : DispatchAction}

/-- An error keeps the delivery and forgets the fact. -/
theorem raised_spec (held : Option HeldWork) (terminal : Bool) :
    ((DispatchStep.raised held terminal).held = held) ∧
      (DispatchStep.raised held terminal).event = none := by
  cases held <;> exact ⟨rfl, rfl⟩

/-- Past its consumers a dispatch holds what it held, about the same fact. -/
theorem afterConsumers_spec (release : Release) (held : Option HeldWork) (event : ReadEvent) :
    ((release.afterConsumers held event).held = held) ∧
      ∀ event', (release.afterConsumers held event).event = some event' → event' = event := by
  cases held with
  | none => exact ⟨rfl, fun event' h ↦ by cases h⟩
  | some held => exact ⟨rfl, fun event' h ↦ by cases h; rfl⟩

/-- A dispatch that has just read a fact is about it. -/
theorem dispatch_spec (release : Release) (held : Option HeldWork) (event : ReadEvent)
    (valid : Bool) :
    ((release.dispatch held event valid).held = held) ∧
      ∀ event', (release.dispatch held event valid).event = some event' → event' = event := by
  have hraised : ∀ terminal, ((DispatchStep.raised held terminal).held = held) ∧
      ∀ event', (DispatchStep.raised held terminal).event = some event' → event' = event :=
    fun terminal ↦ ⟨(raised_spec held terminal).1, fun event' h ↦ by
      rw [(raised_spec held terminal).2] at h
      cases h⟩
  unfold Release.dispatch
  split
  · exact hraised true
  · split
    · split
      · exact afterConsumers_spec release held event
      · exact hraised false
    · exact ⟨rfl, fun event' h ↦ by cases h; rfl⟩

/-- What a step of a dispatch may do: stand still or end, go for its lock, claim, read its fact or find
none, fail, go on with its consumers, or check receipts and settle. -/
inductive Advances (state : DeliveryState) (dispatch : Dispatch) : DispatchStep → Prop
  | stays : Advances state dispatch dispatch.step
  | ends : Advances state dispatch .ended
  | acquires : Advances state dispatch .claiming
  | claims {token : Nat} {now : Int} {row : WorkItem} :
      state.claimed dispatch token now = some row →
      Advances state dispatch (.reading ⟨row.organizationId, row.id, row.subjectId, token, row.attempts⟩)
  | reads {held : HeldWork} {row : OutboxEvent} {valid : Bool} :
      dispatch.step = .reading held →
      state.readEvent held.organizationId held.subjectId = some row →
      Advances state dispatch (dispatch.release.dispatch (some held) ⟨row.id, row.eventType⟩ valid)
  | findsNone {held : HeldWork} :
      dispatch.step = .reading held →
      state.readEvent held.organizationId held.subjectId = none →
      Advances state dispatch (.renewing held none)
  | raises {held : Option HeldWork} {terminal : Bool} :
      dispatch.step.held = held → Advances state dispatch (.raised held terminal)
  | gives {held : HeldWork} {terminal : Bool} :
      dispatch.step.held = some held → Advances state dispatch (.failing held terminal)
  | checks {held : Option HeldWork} {event : ReadEvent} {rest : List String} {failed : Bool} :
      dispatch.step.held = held → dispatch.step.event = some event →
      Advances state dispatch (.checking held event rest failed)
  | finds {held : Option HeldWork} {event : ReadEvent} {consumer : String} {rest : List String}
      {failed : Bool} :
      dispatch.step.held = held → dispatch.step.event = some event →
      hasReceipt state.receipts event.id consumer = false →
      Advances state dispatch (.deciding held event consumer rest failed)
  | invokes {held : Option HeldWork} {event : ReadEvent} {consumer : String} {rest : List String}
      {failed : Bool} :
      dispatch.step.held = held → dispatch.step.event = some event →
      Advances state dispatch (.handling held event consumer rest failed)
  | consumed {held : Option HeldWork} {event : ReadEvent} :
      dispatch.step.held = held → dispatch.step.event = some event →
      Advances state dispatch (dispatch.release.afterConsumers held event)
  | verifies {held : HeldWork} {event : ReadEvent} {name : String} {rest : List String} :
      dispatch.step = .verifying held event (name :: rest) →
      hasReceipt state.receipts event.id name = true →
      Advances state dispatch (.verifying held event rest)
  | verified {held : HeldWork} {event : ReadEvent} :
      dispatch.step = .verifying held event [] →
      Advances state dispatch (.renewing held (some event))
  | renews {held : HeldWork} {event : Option ReadEvent} :
      dispatch.step = .renewing held event →
      Advances state dispatch (.completing held event)

/-- What each action does to its dispatch. -/
theorem DeliveryState.nextStep_advances (dispatch : Dispatch) (action : DispatchAction) :
    Advances state dispatch (state.nextStep dispatch action) := by
  have hat : ∀ {step : DispatchStep}, dispatch.step = step →
      dispatch.step.held = step.held ∧ dispatch.step.event = step.event := fun h ↦ by
    rw [h]
    exact ⟨rfl, rfl⟩
  unfold DeliveryState.nextStep
  split
  · split
    · exact .ends
    · exact .acquires
  · split
    · next hclaimed => exact .claims hclaimed
    · exact .ends
  · next hstep =>
    split
    · next hread => exact .reads hstep hread
    · next hread => exact .findsNone hstep hread
  · next hstep =>
    split
    · exact .raises (hat hstep).1
    · exact .consumed (hat hstep).1 (hat hstep).2
  · next hstep =>
    split
    · exact .checks (hat hstep).1 (hat hstep).2
    · next hreceipt =>
      exact .finds (hat hstep).1 (hat hstep).2 (by simpa using hreceipt)
  · next hstep => exact .invokes (hat hstep).1 (hat hstep).2
  · next hstep => exact .checks (hat hstep).1 (hat hstep).2
  · next hstep => exact .raises (hat hstep).1
  · next hstep => exact .checks (hat hstep).1 (hat hstep).2
  · next hstep => exact .verified hstep
  · next hstep =>
    split
    · next hreceipt => exact .verifies hstep hreceipt
    · exact .raises (hat hstep).1
  · next hstep =>
    split
    · exact .renews hstep
    · exact .raises (hat hstep).1
  · next hstep => exact .gives (hat hstep).1
  · exact .ends
  · exact .ends
  -- a consumer's error is kept apart
  · next hstep => exact .checks (hat hstep).1 (hat hstep).2
  · next hstep => exact .checks (hat hstep).1 (hat hstep).2
  · next hstep => exact .checks (hat hstep).1 (hat hstep).2
  -- any other error fails the delivery
  · next hstep => exact .raises (hat hstep).1
  · next hstep => exact .raises (hat hstep).1
  · next hstep => exact .raises (hat hstep).1
  · next hstep => exact .raises (hat hstep).1
  · exact .ends
  · exact .ends
  · exact .ends
  · exact .ends
  · exact .ends
  · exact .stays

end Steps

end ReputationKey.Shared
