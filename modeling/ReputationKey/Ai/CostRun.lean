import ReputationKey.Ai.CostBook
import ReputationKey.Base.Run

/-!
# Runs of the cost ledger

What an admission, a settlement and a pass of the reaper do when they go through, and the system of
their interleavings. The book follows the ledger: it takes in each nonce as it is issued, and the
amount its row shows while the row carries it.
-/

namespace ReputationKey.Ai

open Base

/-! ## What a transaction does -/

theorem AiCostLedger.updateOperation_ok {ledger ledger' : AiCostLedger} {id : String}
    {change : AiOperation → AiOperation} (h : ledger.updateOperation id change = .ok ledger') :
    ledger' = { ledger with operations := RowTable.alter (·.id) id change ledger.operations } ∧
      ∀ row, ledger.operation id = some row → (change row).budgetValid = true := by
  rw [updateOperation] at h
  obtain ⟨hvalid, h⟩ := ok_of_guard h
  refine ⟨(Except.ok.inj h).symm, ?_⟩
  intro row hrow
  rw [hrow] at hvalid
  simpa using hvalid

theorem AiCostLedger.updateWindow_ok {ledger ledger' : AiCostLedger} {id : String}
    {change : AiCostWindow → AiCostWindow} (h : ledger.updateWindow id change = .ok ledger') :
    ledger' = { ledger with windows := RowTable.alter (·.id) id change ledger.windows } := by
  rw [updateWindow] at h
  exact (Except.ok.inj (ok_of_guard h).2).symm

/-- A settlement charges the reservation, or finds it settled at the same cost. -/
inductive Settling (settledAt : ℤ) (ledger : AiCostLedger) (row : AiOperation) (cost : ℕ) :
    AiCostLedger → Prop
  | again : row.budgetSettledAt ≠ none → row.actualMicros = some cost →
      Settling settledAt ledger row cost ledger
  | charged {windowId : String} : row.costWindowId = some windowId →
      row.budgetSettledAt = none → cost ≤ row.reservedMicros →
        Settling settledAt ledger row cost (ledger.charged row windowId cost settledAt)

theorem settleAiOperation_ok {context : AiLedgerContext} {ledger ledger' : AiCostLedger}
    {operationId : String} {cost : ℕ} {row : AiOperation}
    (hrow : ledger.operation operationId = some row)
    (h : settleAiOperation context ledger operationId cost = .ok ledger') :
    Settling context.budgetNow ledger row cost ledger' := by
  have hid := (RowTable.mem_of_find hrow).2
  rw [settleAiOperation, hrow] at h
  obtain ⟨_, h⟩ := ok_of_guard h
  simp only at h
  cases hwindow : row.costWindowId with
  | none =>
      rw [hwindow] at h
      cases h
  | some windowId =>
      rw [hwindow] at h
      obtain ⟨_, h⟩ := ok_of_guard h
      by_cases hsettled : row.budgetSettledAt = none
      · rw [if_neg (by simp [hsettled])] at h
        obtain ⟨hcost, h⟩ := ok_of_guard h
        obtain ⟨_, h⟩ := ok_of_guard h
        obtain ⟨released, hreleased, h⟩ := ok_of_bind h
        rw [AiCostLedger.updateWindow_ok hreleased] at h
        rw [(AiCostLedger.updateOperation_ok h).1, ← hid]
        exact .charged hwindow hsettled (Nat.not_lt.1 hcost)
      · rw [if_pos hsettled] at h
        obtain ⟨hsame, h⟩ := ok_of_guard h
        rw [← Except.ok.inj h]
        exact .again hsettled (not_not.1 hsame)

/-- A settlement that goes through answers what the operation is settled at, or leaves the ledger. -/
theorem settle_ok {context : AiLedgerContext} {ledger ledger' : AiCostLedger}
    {request : AiSettlementRequest} {receiptKid : String} {answer : AiSettlementAnswer}
    (h : settle context ledger request receiptKid = .ok (answer, ledger')) :
    (∃ code, answer = .denied code ∧ ledger' = ledger) ∨
      ∃ row hmac cost, ledger.operation request.operationId = some row ∧
        row.admissionNonce = some request.nonce ∧
        answer = .settled request receiptKid hmac cost context.now
          (settlementState request.disposition) ∧
        settledCost request row.reservedMicros
          (context.tables.priceCatalogueOfProvider row.providerId) = .ok cost ∧
        Settling context.budgetNow ledger row cost ledger' := by
  rw [settle] at h
  obtain ⟨_, h⟩ := ok_of_guard h
  split at h
  · cases h
    exact Or.inl ⟨_, rfl, rfl⟩
  next row hrow =>
  split at h
  · cases h
    exact Or.inl ⟨_, rfl, rfl⟩
  next hmac hhmac =>
  split at h
  · cases h
    exact Or.inl ⟨_, rfl, rfl⟩
  next hsame =>
  simp only [not_or, not_not] at hsame
  simp only at h
  split at h
  · cases h
    exact Or.inl ⟨_, rfl, rfl⟩
  obtain ⟨cost, hcost, h⟩ := ok_of_bind h
  split at h
  · cases h
    exact Or.inl ⟨_, rfl, rfl⟩
  split at h
  · obtain ⟨settled, hsettled, h⟩ := ok_of_bind h
    cases h
    exact Or.inr ⟨row, hmac, cost, hrow, hsame.2.2.1, rfl, hcost,
      settleAiOperation_ok hrow hsettled⟩
  next hsettled =>
  split at h
  · cases h
    exact Or.inl ⟨_, rfl, rfl⟩
  next hactual =>
  cases h
  exact Or.inr ⟨row, hmac, cost, hrow, hsame.2.2.1, rfl, hcost,
    .again hsettled (not_not.1 hactual)⟩

/-- The reaper charges an admission its maximum. -/
theorem reapReservation_ok {clock : ℤ} {ledger ledger' : AiCostLedger} {row : AiOperation}
    {windowId : String} (hwindow : row.costWindowId = some windowId)
    (hadmitted : row.admissionNonce ≠ none) (h : reapReservation clock ledger row = .ok ledger') :
    ledger' = ledger.charged row windowId row.reservedMicros clock := by
  rw [reapReservation, hwindow] at h
  simp only [if_neg hadmitted] at h
  obtain ⟨_, h⟩ := ok_of_guard h
  obtain ⟨released, hreleased, h⟩ := ok_of_bind h
  rw [AiCostLedger.updateWindow_ok hreleased] at h
  exact (AiCostLedger.updateOperation_ok h).1

/-! ## What an admission does -/

/-- A row with a reservation written into it. -/
def AiOperation.reserving (routeKey windowId : String) (reservedMicros : ℕ) (reservedAt : ℤ)
    (row : AiOperation) : AiOperation :=
  { row with
    routeKey := some routeKey
    costWindowId := some windowId
    reservedMicros := reservedMicros
    budgetReservedAt := some reservedAt }

/-- A row with an admission written into it. -/
def AiOperation.admitting (nonce : String) (binding : AiRequestBinding) (grantKid : String)
    (row : AiOperation) : AiOperation :=
  { row with
    admissionNonce := some nonce
    requestBindingKeyId := some binding.keyId
    requestBindingHmac := some binding.hmac
    grantKid := some grantKid }

/-- A ledger in which a window may have been opened. -/
inductive Opening (ledger : AiCostLedger) : AiCostLedger → Prop
  | same : Opening ledger ledger
  | opened {window : AiCostWindow} : window.id ∉ ledger.windows.map (·.id) →
      window.reservedMicros = 0 → window.settledMicros = 0 →
        1 ≤ window.capMicros ∧ window.capMicros ≤ maxSafeMicros →
          Opening ledger { ledger with windows := window :: ledger.windows }

theorem Opening.operations {ledger opened : AiCostLedger} (h : Opening ledger opened) :
    opened.operations = ledger.operations := by
  cases h with
  | same => rfl
  | opened => rfl

theorem openWindow_ok {ledger opened : AiCostLedger} {organizationId id : String} {start : ℤ}
    (h : openWindow ledger organizationId start id = .ok opened) : Opening ledger opened := by
  rw [openWindow] at h
  split at h
  · rw [← Except.ok.inj h]
    exact .same
  split at h
  · cases h
  next hfresh =>
  rw [← Except.ok.inj h]
  refine .opened ?_ rfl rfl ⟨by simp [organizationMonthlyCapMicros],
    by simp [organizationMonthlyCapMicros, maxSafeMicros]⟩
  rw [Option.not_isSome_iff_eq_none, AiCostLedger.window] at hfresh
  exact RowTable.find_eq_none_iff.1 hfresh

/-- A reservation is made in a window with room, or the operation is denied. -/
theorem admitAiOperation_ok {context : AiLedgerContext} {ledger ledger' : AiCostLedger}
    {input : AiBudgetAdmissionInput} {answer : AiBudgetDenial ⊕ ℕ} {row : AiOperation}
    (hrow : ledger.operation input.operationKey = some row) (hnone : row.costWindowId = none)
    (h : admitAiOperation context ledger input = .ok (answer, ledger')) :
    (∃ code, answer = .inl code ∧ Opening ledger ledger') ∨
      ∃ opened window reservedMicros, answer = .inr reservedMicros ∧ Opening ledger opened ∧
        window ∈ opened.windows ∧ 0 < reservedMicros ∧
        window.reservedMicros + window.settledMicros + reservedMicros ≤ window.capMicros ∧
        ledger' = opened.issued row.id window.id reservedMicros
          (AiOperation.reserving input.routeKey window.id reservedMicros context.budgetNow) := by
  have hdenied : ∀ {code}, (Except.ok (Sum.inl code, ledger) :
      Except AiLedgerError ((AiBudgetDenial ⊕ ℕ) × AiCostLedger)) = .ok (answer, ledger') →
      ∃ code, answer = .inl code ∧ Opening ledger ledger' := by
    rintro code ⟨⟩
    exact ⟨code, rfl, .same⟩
  rw [admitAiOperation] at h
  split at h
  · exact Or.inl (hdenied h)
  split at h
  · exact Or.inl (hdenied h)
  split at h
  rotate_left
  · exact Or.inl (hdenied h)
  next operation capability hoperation _ =>
  rw [hrow] at hoperation
  obtain ⟨hsame, _⟩ := Option.filter_eq_some_iff.1 hoperation
  obtain rfl := Option.some.inj hsame
  split at h
  · exact Or.inl (hdenied h)
  rw [if_neg (by simp [hnone])] at h
  split at h
  · exact Or.inl (hdenied h)
  obtain ⟨reservation, _, h⟩ := ok_of_bind h
  split at h
  · exact Or.inl (hdenied h)
  next reservedMicros _ =>
  obtain ⟨opened, hopened, h⟩ := ok_of_bind h
  have hopening := openWindow_ok hopened
  split at h
  · cases h
    exact Or.inl ⟨_, rfl, hopening⟩
  next window hwindow =>
  obtain ⟨charged, hcharged, h⟩ := ok_of_bind h
  obtain ⟨reserved, hreserved, h⟩ := ok_of_bind h
  have hroom := List.find?_some hwindow
  simp only [Bool.and_eq_true, decide_eq_true_eq] at hroom
  have hcharged' := AiCostLedger.updateWindow_ok hcharged
  obtain ⟨hafter, hvalid⟩ := AiCostLedger.updateOperation_ok hreserved
  have hthere : charged.operation row.id = some row := by
    rw [hcharged', AiCostLedger.operation]
    rw [AiCostLedger.operation] at hrow
    rw [(RowTable.mem_of_find hrow).2, hopening.operations]
    exact hrow
  have hbudget := hvalid row hthere
  simp only [AiOperation.budgetValid, Option.isNone_some, Option.isSome_some, Bool.false_and,
    Bool.true_and, Bool.and_true, Bool.false_or, Bool.and_eq_true, decide_eq_true_eq] at hbudget
  cases h
  refine Or.inr ⟨opened, window, reservedMicros, rfl, hopening, List.mem_of_find?_eq_some hwindow,
    hbudget.1.2, hroom.2, ?_⟩
  rw [hafter, hcharged']
  rfl

/-- What an admission of an operation without one leaves. -/
inductive AdmittedAfresh (context : AiLedgerContext) (ledger : AiCostLedger) (operationId : String) :
    AiAdmissionAnswer → AiCostLedger → Prop
  | denied {code : AiPropertyDenial} {opened : AiCostLedger} : Opening ledger opened →
      AdmittedAfresh context ledger operationId (.denied code) opened
  | issued {opened : AiCostLedger} {window : AiCostWindow} {reservedMicros : ℕ}
      {change : AiOperation → AiOperation} {expiresAt : ℤ} {adoptionWindowEnd : Option ℤ} :
      Opening ledger opened → window ∈ opened.windows → 0 < reservedMicros →
        window.reservedMicros + window.settledMicros + reservedMicros ≤ window.capMicros →
        IssuingChange change context.nonce window.id reservedMicros →
        (∀ row, (change row).budgetReservedAt = some context.budgetNow) →
          AdmittedAfresh context ledger operationId
            (.admitted context.nonce context.now expiresAt adoptionWindowEnd)
            (opened.issued operationId window.id reservedMicros change)

theorem admitAfresh_ok {context : AiLedgerContext} {ledger ledger' : AiCostLedger}
    {descriptor : AiAdmissionDescriptor} {binding : AiRequestBinding}
    {adoptionWindowEnd : Option ℤ} {answer : AiAdmissionAnswer} {row : AiOperation}
    (hrow : ledger.operation descriptor.operationId = some row) (hnone : row.costWindowId = none)
    (h : admitAfresh context ledger descriptor binding adoptionWindowEnd = .ok (answer, ledger')) :
    AdmittedAfresh context ledger descriptor.operationId answer ledger' := by
  have hid := (RowTable.mem_of_find hrow).2
  rw [admitAfresh] at h
  obtain ⟨⟨admitted, reserved⟩, hadmitted, h⟩ := ok_of_bind h
  rcases admitAiOperation_ok hrow hnone hadmitted with ⟨code, hcode, hopening⟩ |
    ⟨opened, window, reservedMicros, hanswer, hopening, hwindow, hpositive, hroom, hreserved⟩
  · rw [hcode] at h
    cases h
    exact .denied hopening
  · rw [hanswer] at h
    obtain ⟨issued, hissued, h⟩ := ok_of_bind h
    cases h
    rw [(AiCostLedger.updateOperation_ok hissued).1, hreserved, ← hid]
    have hissue : AdmittedAfresh context ledger row.id
        (.admitted context.nonce context.now descriptor.callerDeadlineEpochMillis
          adoptionWindowEnd)
        (opened.issued row.id window.id reservedMicros
          (AiOperation.admitting context.nonce binding context.signingKid ∘
            AiOperation.reserving descriptor.route window.id reservedMicros context.budgetNow)) :=
      .issued hopening hwindow hpositive hroom
        ⟨fun _ ↦ rfl, fun _ ↦ rfl, fun _ ↦ rfl, fun _ ↦ rfl, fun _ ↦ rfl, fun _ ↦ rfl⟩
        (fun _ ↦ rfl)
    rw [AiCostLedger.issued, ← RowTable.alter_alter (by intro _; rfl)] at hissue
    exact hissue

/-- What a call of the admission authority answers and leaves. -/
inductive Authorized (context : AiLedgerContext) (ledger : AiCostLedger) (operationId : String) :
    AiAdmissionAnswer → AiCostLedger → Prop
  | denied {code : AiPropertyDenial} : Authorized context ledger operationId (.denied code) ledger
  | replayed {row : AiOperation} {nonce : String} {expiresAt : ℤ} {adoptionWindowEnd : Option ℤ} :
      ledger.operation operationId = some row → row.admissionNonce = some nonce →
        Authorized context ledger operationId
          (.admitted nonce context.now expiresAt adoptionWindowEnd) ledger
  | afresh {row : AiOperation} {answer : AiAdmissionAnswer} {after : AiCostLedger} :
      ledger.operation operationId = some row → row.admissionNonce = none →
        AdmittedAfresh context ledger operationId answer after →
          Authorized context ledger operationId answer after
  | again {row : AiOperation} {answer : AiAdmissionAnswer} {after : AiCostLedger} :
      ledger.operation operationId = some row → row.admissionNonce ≠ none →
        row.budgetSettledAt ≠ none → row.actualMicros = some 0 →
        AdmittedAfresh context
          { ledger with
            operations := RowTable.alter (·.id) operationId releasedAdmissionCleared
              ledger.operations } operationId answer after →
          Authorized context ledger operationId answer after

theorem authorizeProperty_ok {context : AiLedgerContext} {ledger ledger' : AiCostLedger}
    {book : List IssuedAdmission} (hbalanced : Balanced ledger book)
    {descriptor : AiAdmissionDescriptor} {binding : AiRequestBinding} {answer : AiAdmissionAnswer}
    (h : authorizeProperty context ledger descriptor binding = .ok (answer, ledger')) :
    Authorized context ledger descriptor.operationId answer ledger' := by
  rw [authorizeProperty] at h
  split at h
  · cases h
    exact .denied
  split at h
  · cases h
    exact .denied
  split at h
  · cases h
    exact .denied
  next row hexecuting =>
  have hrow := (Option.filter_eq_some_iff.1 hexecuting).1
  obtain ⟨mem, hid⟩ := RowTable.mem_of_find hrow
  split at h
  · cases h
    exact .denied
  simp only at h
  split at h
  · next hnone =>
    exact .afresh hrow hnone
      (admitAfresh_ok hrow ((hbalanced.rows row mem).unadmitted hnone).1 h)
  next nonce hnonce =>
  split at h
  · cases h
    exact .replayed hrow hnonce
  split at h
  · cases h
    exact .denied
  next hreleased =>
  simp only [Bool.not_eq_false, releasedWithoutCharge, Bool.and_eq_true,
    Option.isSome_iff_ne_none, decide_eq_true_eq] at hreleased
  obtain ⟨cleared, hcleared, h⟩ := ok_of_bind h
  have hafter := (AiCostLedger.updateOperation_ok hcleared).1
  refine .again hrow (by simp [hnonce]) hreleased.1 hreleased.2 ?_
  rw [← hafter]
  refine admitAfresh_ok (show _ = some (releasedAdmissionCleared row) from ?_) rfl h
  rw [AiCostLedger.operation, hafter, RowTable.find_alter (by intro _; rfl)]
  rw [AiCostLedger.operation] at hrow
  rw [hrow, Option.map_some, if_pos rfl]

/-! ## Faults of a window -/

/-- A transaction fails for lack of balance in its window. -/
def AiLedgerError.WindowFault (e : AiLedgerError) : Prop :=
  e = .windowCouldNotSettle ∨ e = .staleWindowInconsistent ∨
    e = .checkViolated "ai_organization_cost_windows_valid"

theorem AiCostLedger.updateOperation_error {ledger : AiCostLedger} {id : String}
    {change : AiOperation → AiOperation} {e : AiLedgerError}
    (h : ledger.updateOperation id change = .error e) : ¬ e.WindowFault := by
  rw [updateOperation] at h
  split at h
  · cases h
    simp [AiLedgerError.WindowFault]
  · cases h

namespace Balanced

variable {ledger : AiCostLedger} {book : List IssuedAdmission} {row : AiOperation}
  {windowId : String}

/-- A window can release a live reservation and take in what it cost. -/
theorem release (h : Balanced ledger book) (mem : row ∈ ledger.operations)
    (hwindow : row.costWindowId = some windowId) (live : row.budgetSettledAt = none) {cost : ℕ}
    (hcost : cost ≤ row.reservedMicros) : ∃ w, ledger.window windowId = some w ∧
      row.reservedMicros ≤ w.reservedMicros ∧ w.settledMicros + cost ≤ w.capMicros ∧
      ({ w with
        reservedMicros := w.reservedMicros - row.reservedMicros
        settledMicros := w.settledMicros + cost } : AiCostWindow).valid = true := by
  have hthere : windowId ∈ ledger.windows.map (·.id) := by
    cases hnonce : row.admissionNonce with
    | none =>
        rw [((h.rows row mem).unadmitted hnonce).1] at hwindow
        cases hwindow
    | some nonce =>
        obtain ⟨own, hown, hthere, _⟩ := (h.rows row mem).admitted nonce hnonce
        rw [hwindow] at hown
        rw [Option.some.inj hown]
        exact hthere
  obtain ⟨w, hw, rfl⟩ := List.mem_map.1 hthere
  have hheld := h.live_le mem hwindow live hw
  obtain ⟨hcapped, hpositive, hsafe⟩ := h.capped w hw
  refine ⟨w, RowTable.find_of_mem h.windowIds hw, hheld, by omega, ?_⟩
  simp only [AiCostWindow.valid, Bool.and_eq_true, decide_eq_true_eq]
  omega

theorem settleAiOperation_error (h : Balanced ledger book) {context : AiLedgerContext}
    {operationId : String} {cost : ℕ} {e : AiLedgerError}
    (herror : settleAiOperation context ledger operationId cost = .error e) : ¬ e.WindowFault := by
  rw [settleAiOperation] at herror
  split at herror
  · cases herror
    simp [AiLedgerError.WindowFault]
  split at herror
  · cases herror
    simp [AiLedgerError.WindowFault]
  next row hrow =>
  obtain ⟨mem, _⟩ := RowTable.mem_of_find hrow
  split at herror
  · cases herror
    simp [AiLedgerError.WindowFault]
  next windowId hwindow =>
  split at herror
  · cases herror
    simp [AiLedgerError.WindowFault]
  by_cases live : row.budgetSettledAt = none
  · rw [if_neg (by simp [live])] at herror
    split at herror
    · cases herror
      simp [AiLedgerError.WindowFault]
    next hcost =>
    obtain ⟨w, hw, hheld, hroom, hvalid⟩ := h.release mem hwindow live (Nat.not_lt.1 hcost)
    rw [AiCostLedger.updateWindow, hw] at herror
    simp only [Option.any_some, hheld, hroom, hvalid, decide_true, Bool.and_self,
      Bool.true_eq_false, Bool.not_true, Bool.false_eq_true, if_false] at herror
    exact AiCostLedger.updateOperation_error herror
  · rw [if_pos live] at herror
    split at herror
    · cases herror
      simp [AiLedgerError.WindowFault]
    · cases herror

theorem reapReservation_error (h : Balanced ledger book) {clock : ℤ} {e : AiLedgerError}
    (mem : row ∈ ledger.operations) (live : row.budgetSettledAt = none)
    (herror : reapReservation clock ledger row = .error e) : ¬ e.WindowFault := by
  rw [reapReservation] at herror
  split at herror
  · cases herror
  next windowId hwindow =>
  have hcost : (if row.admissionNonce = none then 0 else row.reservedMicros) ≤
      row.reservedMicros := by
    split <;> omega
  obtain ⟨w, hw, hheld, _, hvalid⟩ := h.release mem hwindow live hcost
  simp only at herror
  rw [AiCostLedger.updateWindow, hw] at herror
  simp only [Option.any_some, hheld, hvalid, decide_true, Bool.true_eq_false, Bool.not_true,
    Bool.false_eq_true, if_false] at herror
  exact AiCostLedger.updateOperation_error herror

end Balanced

/-! ## A pass of the reaper -/

/-- What the passes of the reaper and the settlements keep: the balance, each nonce in its place, and
every admission. -/
structure Charges (ledger : AiCostLedger) (book : List IssuedAdmission) (after : AiCostLedger) :
    Prop where
  balanced : Balanced after (book.map (·.follow after))
  carried : ∀ id, after.carried id = ledger.carried id
  kept : ∀ a ∈ book, a.Kept (a.follow after)

theorem Charges.refl {ledger : AiCostLedger} {book : List IssuedAdmission}
    (h : Balanced ledger book) : Charges ledger book ledger := by
  have hbook : ∀ a ∈ book, a.follow ledger = a := by
    intro a ha
    have hmap := h.follow_eq
    conv_rhs at hmap => rw [← List.map_id book]
    exact List.map_inj_left.1 hmap a ha
  refine ⟨?_, fun _ ↦ rfl, ?_⟩
  · rw [h.follow_eq]
    exact h
  · intro a ha
    rw [hbook a ha]
    exact .refl a

theorem Charges.trans {ledger middle after : AiCostLedger} {book : List IssuedAdmission}
    (h : Charges ledger book middle) (h' : Charges middle (book.map (·.follow middle)) after) :
    Charges ledger book after := by
  refine ⟨?_, fun id ↦ (h'.carried id).trans (h.carried id), ?_⟩
  · have hbalanced := h'.balanced
    rw [List.map_map] at hbalanced
    have hbook : book.map ((·.follow after) ∘ (·.follow middle)) = book.map (·.follow after) :=
      List.map_congr_left fun a _ ↦ IssuedAdmission.follow_follow h'.carried a
    rw [hbook] at hbalanced
    exact hbalanced
  · intro a ha
    have hlater := h'.kept _ (List.mem_map_of_mem ha)
    rw [IssuedAdmission.follow_follow h'.carried] at hlater
    exact (h.kept a ha).trans hlater

theorem Balanced.charges {ledger : AiCostLedger} {book : List IssuedAdmission} {row : AiOperation}
    {windowId : String} {cost : ℕ} (h : Balanced ledger book) (mem : row ∈ ledger.operations)
    (hadmitted : row.admissionNonce ≠ none) (live : row.budgetSettledAt = none)
    (hwindow : row.costWindowId = some windowId) (hcost : cost ≤ row.reservedMicros)
    (settledAt : ℤ) : Charges ledger book (ledger.charged row windowId cost settledAt) := by
  obtain ⟨nonce, hnonce⟩ := Option.ne_none_iff_exists'.1 hadmitted
  exact ⟨h.charge mem hnonce live hwindow hcost settledAt,
    ledger.charged_carried row windowId cost settledAt,
    fun _ ha ↦ h.kept_charged mem hnonce live settledAt ha⟩

/-- A reservation that the reaper picks is one of an open admission. -/
theorem Balanced.stale {ledger : AiCostLedger} {book : List IssuedAdmission} {row : AiOperation}
    {clock : ℤ} (h : Balanced ledger book) (mem : row ∈ ledger.operations)
    (hstale : row.isStale clock = true) : row.budgetSettledAt = none ∧ row.admissionNonce ≠ none := by
  simp only [AiOperation.isStale, Bool.and_eq_true, Option.isNone_iff_eq_none,
    decide_eq_true_eq] at hstale
  refine ⟨hstale.1.1, ?_⟩
  intro hnone
  have hzero := ((h.rows row mem).unadmitted hnone).2.1
  omega

/-- A pass over stale rows charges each of them, in a ledger that changes under it row by row. -/
theorem reapReservations_spec {clock : ℤ} {rows : List AiOperation} {ledger : AiCostLedger}
    {book : List IssuedAdmission} (h : Balanced ledger book) (nodup : (rows.map (·.id)).Nodup)
    (hrows : ∀ row ∈ rows, row ∈ ledger.operations ∧ row.isStale clock = true) :
    match rows.foldlM (reapReservation clock) ledger with
    | .ok after => Charges ledger book after
    | .error e => ¬ e.WindowFault := by
  induction rows generalizing ledger book with
  | nil => exact .refl h
  | cons row rest ih =>
      rw [List.map_cons, List.nodup_cons] at nodup
      obtain ⟨mem, hstale⟩ := hrows row List.mem_cons_self
      obtain ⟨live, hadmitted⟩ := h.stale mem hstale
      rw [List.foldlM_cons]
      cases hreap : reapReservation clock ledger row with
      | error e => exact h.reapReservation_error mem live hreap
      | ok middle =>
          obtain ⟨nonce, hnonce⟩ := Option.ne_none_iff_exists'.1 hadmitted
          obtain ⟨windowId, hwindow, _⟩ := (h.rows row mem).admitted nonce hnonce
          have hmiddle := reapReservation_ok hwindow hadmitted hreap
          have hcharges : Charges ledger book middle := by
            rw [hmiddle]
            exact h.charges mem hadmitted live hwindow le_rfl clock
          have hrest : ∀ r ∈ rest, r ∈ middle.operations ∧ r.isStale clock = true := by
            intro r hr
            obtain ⟨hmem, hr'⟩ := hrows r (List.mem_cons_of_mem _ hr)
            refine ⟨?_, hr'⟩
            rw [hmiddle]
            apply RowTable.mem_alter_of_ne hmem
            intro hsame
            apply nodup.1
            rw [← hsame]
            exact List.mem_map_of_mem hr
          have hlater := ih hcharges.balanced nodup.2 hrest
          show match rest.foldlM (reapReservation clock) middle with
            | .ok after => Charges ledger book after
            | .error e => ¬ e.WindowFault
          split
          · next after hafter =>
            rw [hafter] at hlater
            exact hcharges.trans hlater
          · next e hafter =>
            rw [hafter] at hlater
            exact hlater

end ReputationKey.Ai
