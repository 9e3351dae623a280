import ReputationKey.Ai.CostRun

/-!
# The cost ledger over runs

The system of admissions, settlements, passes of the reaper and changes of executions, in any order,
and what holds of every state it reaches.
-/

namespace ReputationKey.Ai

open Base

/-! ## The system -/

/-- The tables, and the book of what was issued. -/
structure AiCostState where
  ledger : AiCostLedger
  book : List IssuedAdmission
  deriving DecidableEq, Repr

/-- The book takes in what was issued and follows the ledger. -/
def AiCostState.record (s : AiCostState) (post : AiCostLedger) (issued : Option IssuedAdmission) :
    AiCostState :=
  ⟨post, issued.toList ++ s.book.map (·.follow post)⟩

/-- An operation is claimed, or its execution goes on. -/
def AiCostLedger.withHead (ledger : AiCostLedger) (head : AiOperationHead) : AiCostLedger :=
  if (ledger.operation head.id).isSome then
    { ledger with
      operations := RowTable.alter (·.id) head.id
        (fun row ↦ { row with toAiOperationHead := { head with id := row.id } })
        ledger.operations }
  else
    { ledger with
      operations :=
        { toAiOperationHead := head
          routeKey := none
          admissionNonce := none
          requestBindingKeyId := none
          requestBindingHmac := none
          grantKid := none
          costWindowId := none
          reservedMicros := 0
          actualMicros := none
          budgetReservedAt := none
          budgetSettledAt := none } :: ledger.operations }

inductive AiCostEvent
  | authorize (context : AiLedgerContext) (descriptor : AiAdmissionDescriptor)
      (binding : AiRequestBinding)
  | settle (context : AiLedgerContext) (request : AiSettlementRequest) (receiptKid : String)
  | reap (clock : ℤ) (unlocked : String → Bool)
  | execution (head : AiOperationHead)

/-- A transaction that fails leaves everything. -/
def AiCostState.next (s : AiCostState) : AiCostEvent → AiCostState
  | .authorize context descriptor binding =>
      match authorizeProperty context s.ledger descriptor binding with
      | .ok (_, post) => s.record post (issuedAdmission s.ledger post descriptor.operationId)
      | .error _ => s
  | .settle context request receiptKid =>
      match settle context s.ledger request receiptKid with
      | .ok (_, post) => s.record post none
      | .error _ => s
  | .reap clock unlocked =>
      match reapStaleAiReservations clock s.ledger unlocked with
      | .ok (_, post) => s.record post none
      | .error _ => s
  | .execution head => s.record (s.ledger.withHead head) none

/-- A nonce is drawn that was never issued. -/
def AiCostEvent.Admissible (s : AiCostState) : AiCostEvent → Prop
  | .authorize context _ _ => context.nonce ∉ s.book.map (·.nonce)
  | _ => True

/-- Transactions in any order, from empty tables. -/
def aiCostSystem : ReadSystem AiCostState AiCostEvent where
  init s := s = ⟨⟨[], []⟩, []⟩
  step _ s e s' := e.Admissible s ∧ s' = s.next e

/-! ## Admissions -/

theorem Opening.balanced {ledger opened : AiCostLedger} {book : List IssuedAdmission}
    (hopening : Opening ledger opened) (h : Balanced ledger book) : Balanced opened book := by
  cases hopening with
  | same => exact h
  | opened hfresh hreserved hsettled hcap => exact h.openWindow hfresh hreserved hsettled hcap

theorem issuedAdmission_eq_none {pre post : AiCostLedger} {operationId : String}
    (h : post.carried operationId = none ∨ post.carried operationId = pre.carried operationId) :
    issuedAdmission pre post operationId = none := by
  rw [issuedAdmission]
  split
  · next row hrow =>
    rw [AiCostLedger.carried, hrow, Option.bind_some] at h
    split
    · next nonce windowId hnonce _ =>
      rw [hnonce] at h
      rcases h with h | h
      · cases h
      · exact if_pos h.symm
    · rfl
  · rfl

/-- An operation holds an unsettled reservation of a nonce. -/
structure HoldsReservation (ledger : AiCostLedger) (operationId nonce windowId : String)
    (reservedMicros : ℕ) (reservedAt : ℤ) (row : AiOperation) : Prop where
  found : ledger.operation operationId = some row
  admissionNonce : row.admissionNonce = some nonce
  costWindowId : row.costWindowId = some windowId
  reserved : row.reservedMicros = reservedMicros
  positive : 0 < reservedMicros
  budgetReservedAt : row.budgetReservedAt = some reservedAt
  budgetSettledAt : row.budgetSettledAt = none
  actualMicros : row.actualMicros = none

/-- What an admission does to the balance: it issues nothing, or the drawn nonce for a reservation
that it makes, to an operation all of whose earlier admissions are settled. -/
inductive AdmissionOutcome (context : AiLedgerContext) (pre : AiCostLedger) (book : List IssuedAdmission)
    (operationId : String) : AiAdmissionAnswer → AiCostLedger → Prop
  | denied {code : AiPropertyDenial} {post : AiCostLedger} : Balanced post book →
      issuedAdmission pre post operationId = none →
        AdmissionOutcome context pre book operationId (.denied code) post
  | replayed {nonce : String} {expiresAt : ℤ} {adoptionWindowEnd : Option ℤ} :
      Balanced pre book → pre.carried operationId = some nonce →
        AdmissionOutcome context pre book operationId
          (.admitted nonce context.now expiresAt adoptionWindowEnd) pre
  | issued {post : AiCostLedger} {windowId : String} {reservedMicros : ℕ} {row : AiOperation}
      {expiresAt : ℤ} {adoptionWindowEnd : Option ℤ} :
      Balanced post (⟨context.nonce, operationId, windowId, reservedMicros, none⟩ :: book) →
      issuedAdmission pre post operationId =
        some ⟨context.nonce, operationId, windowId, reservedMicros, none⟩ →
      HoldsReservation post operationId context.nonce windowId reservedMicros context.budgetNow
        row →
      (∀ a ∈ book, a.operationId = operationId → a.settledMicros ≠ none) →
        AdmissionOutcome context pre book operationId
          (.admitted context.nonce context.now expiresAt adoptionWindowEnd) post

/-- An operation without an admission has no open one in the book. -/
theorem Balanced.settled_of_unadmitted {ledger : AiCostLedger} {book : List IssuedAdmission}
    {row : AiOperation} (h : Balanced ledger book) (mem : row ∈ ledger.operations)
    (hnone : row.admissionNonce = none) {a : IssuedAdmission} (ha : a ∈ book)
    (hown : a.operationId = row.id) : a.settledMicros ≠ none := by
  intro hopen
  obtain ⟨r, hr, hid, hcarries⟩ := h.current a ha hopen
  rw [h.eq_of_id mem hr (hid.trans hown), hnone] at hcarries
  cases hcarries

theorem AdmittedAfresh.admission {context : AiLedgerContext} {pre ledger post : AiCostLedger}
    {book : List IssuedAdmission} {row : AiOperation} {answer : AiAdmissionAnswer}
    (hadmitted : AdmittedAfresh context ledger row.id answer post) (h : Balanced ledger book)
    (mem : row ∈ ledger.operations) (hnone : row.admissionNonce = none)
    (hfresh : context.nonce ∉ book.map (·.nonce))
    (hcarried : pre.carried row.id ≠ some context.nonce) :
    AdmissionOutcome context pre book row.id answer post := by
  cases hadmitted with
  | denied hopening =>
      refine .denied (hopening.balanced h) (issuedAdmission_eq_none (Or.inl ?_))
      rw [AiCostLedger.carried, AiCostLedger.operation, hopening.operations,
        RowTable.find_of_mem h.operationIds mem, Option.bind_some]
      exact hnone
  | @issued opened window reservedMicros change _ _ hopening hwindow hpositive hroom hchange hat =>
      have hbalanced := hopening.balanced h
      have mem' : row ∈ opened.operations := by
        rw [hopening.operations]
        exact mem
      obtain ⟨_, _, _, hsettledAt, huncharged⟩ := (h.rows row mem).unadmitted hnone
      have hafter := hbalanced.issue mem' hnone hwindow hroom hpositive hfresh hchange
      have hrow : (opened.issued row.id window.id reservedMicros change).operation row.id =
          some (change row) := by
        rw [AiCostLedger.operation, AiCostLedger.issued, RowTable.find_alter hchange.id,
          RowTable.find_of_mem hbalanced.operationIds mem', Option.map_some, if_pos rfl]
      have hholds : HoldsReservation (opened.issued row.id window.id reservedMicros change) row.id
          context.nonce window.id reservedMicros context.budgetNow (change row) :=
        { found := hrow
          admissionNonce := hchange.admissionNonce row
          costWindowId := hchange.costWindowId row
          reserved := hchange.reserved row
          positive := hpositive
          budgetReservedAt := hat row
          budgetSettledAt := (hchange.budgetSettledAt row).trans hsettledAt
          actualMicros := (hchange.actualMicros row).trans huncharged }
      refine .issued hafter ?_ hholds ?_
      · simp only [issuedAdmission, hrow, hchange.admissionNonce, hchange.costWindowId,
          hchange.reserved, if_neg hcarried]
      · intro a ha hown
        exact h.settled_of_unadmitted mem hnone ha hown

theorem Authorized.admission {context : AiLedgerContext} {ledger post : AiCostLedger}
    {book : List IssuedAdmission} {operationId : String} {answer : AiAdmissionAnswer}
    (hauthorized : Authorized context ledger operationId answer post) (h : Balanced ledger book)
    (hfresh : context.nonce ∉ book.map (·.nonce)) :
    AdmissionOutcome context ledger book operationId answer post := by
  cases hauthorized with
  | denied => exact .denied h (issuedAdmission_eq_none (Or.inr rfl))
  | replayed hrow hnonce =>
      apply AdmissionOutcome.replayed h
      rw [AiCostLedger.carried, hrow, Option.bind_some]
      exact hnonce
  | afresh hrow hnone hadmitted =>
      obtain ⟨mem, rfl⟩ := RowTable.mem_of_find hrow
      apply hadmitted.admission h mem hnone hfresh
      rw [AiCostLedger.carried, hrow, Option.bind_some, hnone]
      simp
  | @again row _ _ hrow hadmitted' hsettled _ hadmitted =>
      obtain ⟨mem, rfl⟩ := RowTable.mem_of_find hrow
      have hcleared := h.clear mem hsettled
      have hmem : releasedAdmissionCleared row ∈
          RowTable.alter (·.id) row.id releasedAdmissionCleared ledger.operations :=
        RowTable.mem_alter_of_eq mem rfl
      apply @AdmittedAfresh.admission _ _ _ _ _ (releasedAdmissionCleared row) _ hadmitted hcleared hmem rfl hfresh
      obtain ⟨nonce, hnonce⟩ := Option.ne_none_iff_exists'.1 hadmitted'
      obtain ⟨_, _, _, _, _, hentry⟩ := (h.rows row mem).admitted nonce hnonce
      rw [show (releasedAdmissionCleared row).id = row.id from rfl, AiCostLedger.carried, hrow,
        Option.bind_some, hnonce]
      intro hsame
      rw [← Option.some.inj hsame] at hfresh
      exact hfresh (List.mem_map_of_mem hentry)

/-! ## What a step keeps -/

/-- A step keeps the balance and every admission. -/
structure Carries (s : AiCostState) (post : AiCostState) : Prop where
  balanced : Balanced post.ledger post.book
  kept : ∀ a ∈ s.book, ∃ b ∈ post.book, a.Kept b

theorem Carries.refl {s : AiCostState} (h : Balanced s.ledger s.book) : Carries s s :=
  ⟨h, fun a ha ↦ ⟨a, ha, .refl a⟩⟩

/-- Recording a balanced change that issued what it issued. -/
theorem Carries.of_issued {s : AiCostState} {post : AiCostLedger} {issued : Option IssuedAdmission}
    (h : Balanced post (issued.toList ++ s.book)) : Carries s (s.record post issued) := by
  have hmap := h.follow_eq
  rw [List.map_append] at hmap
  have hbook : s.book.map (·.follow post) = s.book :=
    (List.append_inj hmap (List.length_map _)).2
  have hrecord : s.record post issued = ⟨post, issued.toList ++ s.book⟩ := by
    rw [AiCostState.record, hbook]
  rw [hrecord]
  exact ⟨h, fun a ha ↦ ⟨a, List.mem_append_right _ ha, .refl a⟩⟩

theorem Charges.carries {s : AiCostState} {post : AiCostLedger}
    (h : Charges s.ledger s.book post) : Carries s (s.record post none) :=
  ⟨h.balanced, fun a ha ↦ ⟨a.follow post, List.mem_map_of_mem ha, h.kept a ha⟩⟩

theorem AdmissionOutcome.carries {s : AiCostState} {context : AiLedgerContext} {operationId : String}
    {answer : AiAdmissionAnswer} {post : AiCostLedger}
    (h : AdmissionOutcome context s.ledger s.book operationId answer post) :
    Carries s (s.record post (issuedAdmission s.ledger post operationId)) := by
  cases h with
  | denied hbalanced hnone =>
      rw [hnone]
      exact .of_issued hbalanced
  | replayed hbalanced _ =>
      rw [issuedAdmission_eq_none (Or.inr rfl)]
      exact .of_issued hbalanced
  | issued hbalanced hissued _ _ =>
      rw [hissued]
      exact .of_issued hbalanced

theorem Settling.charges {ledger post : AiCostLedger} {book : List IssuedAdmission}
    {row : AiOperation} {settledAt : ℤ} {cost : ℕ} (hsettling : Settling settledAt ledger row cost post)
    (h : Balanced ledger book) (mem : row ∈ ledger.operations)
    (hadmitted : row.admissionNonce ≠ none) : Charges ledger book post := by
  cases hsettling with
  | again => exact .refl h
  | charged hwindow live hcost => exact h.charges mem hadmitted live hwindow hcost settledAt

/-- Other columns of a row do not show in the balance. -/
theorem Balanced.withHead {ledger : AiCostLedger} {book : List IssuedAdmission}
    (h : Balanced ledger book) (head : AiOperationHead) : Balanced (ledger.withHead head) book := by
  rw [AiCostLedger.withHead]
  split
  · next hthere =>
    obtain ⟨row, hrow⟩ := Option.isSome_iff_exists.1 hthere
    obtain ⟨mem, hid⟩ := RowTable.mem_of_find hrow
    rw [← hid]
    apply h.alterRow mem
    · intro _
      rfl
    · intro _
      rfl
    · exact ⟨(h.rows row mem).unadmitted, (h.rows row mem).admitted⟩
    · intro _ _ _ hnonce
      exact hnonce
  · next habsent =>
    rw [Option.not_isSome_iff_eq_none, AiCostLedger.operation] at habsent
    have hfresh := RowTable.find_eq_none_iff.1 habsent
    refine { h with
      operationIds := List.nodup_cons.2 ⟨hfresh, h.operationIds⟩
      reserved := ?_
      rows := ?_
      current := ?_ }
    · intro w hw
      rw [List.map_cons, List.sum_cons, h.reserved w hw]
      simp [AiOperation.heldIn]
    · intro row hrow
      rcases List.mem_cons.1 hrow with rfl | hrow
      · constructor
        · intro _
          exact ⟨rfl, rfl, rfl, rfl, rfl⟩
        · rintro _ ⟨⟩
      · exact h.rows row hrow
    · intro a ha hopen
      obtain ⟨row, hrow, hrest⟩ := h.current a ha hopen
      exact ⟨row, List.mem_cons_of_mem _ hrow, hrest⟩

/-- A pass of the reaper charges what it picks, and no window is short. -/
theorem Balanced.reap {ledger : AiCostLedger} {book : List IssuedAdmission}
    (h : Balanced ledger book) (clock : ℤ) (unlocked : String → Bool) :
    match reapStaleAiReservations clock ledger unlocked with
    | .ok (_, post) => Charges ledger book post
    | .error e => ¬ e.WindowFault := by
  have hsub : (staleReservations clock ledger unlocked).Sublist ledger.operations :=
    List.filter_sublist
  have hspec := @reapReservations_spec clock (staleReservations clock ledger unlocked) _ _ h
    (h.operationIds.sublist (hsub.map _)) (by
      intro row hrow
      rw [staleReservations, List.mem_filter, Bool.and_eq_true] at hrow
      exact ⟨hrow.1, hrow.2.1⟩)
  rw [reapStaleAiReservations]
  cases hfold : (staleReservations clock ledger unlocked).foldlM (reapReservation clock) ledger with
  | error e =>
      rw [hfold] at hspec
      exact hspec
  | ok after =>
      rw [hfold] at hspec
      exact hspec

theorem AiCostState.next_carries {s : AiCostState} {e : AiCostEvent}
    (h : Balanced s.ledger s.book) (hadmissible : e.Admissible s) : Carries s (s.next e) := by
  cases e with
  | authorize context descriptor binding =>
      rw [AiCostState.next]
      split
      · next answer post hok =>
        exact ((authorizeProperty_ok h hok).admission h hadmissible).carries
      · exact .refl h
  | settle context request receiptKid =>
      rw [AiCostState.next]
      split
      · next answer post hok =>
        rcases settle_ok hok with ⟨_, _, rfl⟩ | ⟨row, _, cost, hrow, hnonce, _, _, hsettling⟩
        · exact Charges.carries (.refl h)
        · apply Charges.carries
          apply hsettling.charges h (RowTable.mem_of_find hrow).1
          rw [hnonce]
          simp
      · exact .refl h
  | reap clock unlocked =>
      have hreap := h.reap clock unlocked
      rw [AiCostState.next]
      split
      · next count post hok =>
        rw [hok] at hreap
        exact hreap.carries
      · exact .refl h
  | execution head => exact @Carries.of_issued s _ none (h.withHead head)

/-! ## Settlements do not fail for balance -/

theorem settledCost_error {request : AiSettlementRequest} {reservedMicros : ℕ}
    {pricing : Option AiProviderPriceCatalogue} {e : AiLedgerError}
    (h : settledCost request reservedMicros pricing = .error e) : ∃ text, e = .rangeError text := by
  rw [settledCost.eq_def] at h
  split at h
  · cases h
  split at h
  · cases h
  split at h
  · cases h
  rw [settledCostMicrosWith] at h
  split at h
  · cases h
    exact ⟨_, rfl⟩
  split at h
  · cases h
    exact ⟨_, rfl⟩
  · cases h

theorem Balanced.settle_error {ledger : AiCostLedger} {book : List IssuedAdmission}
    (h : Balanced ledger book) {context : AiLedgerContext} {request : AiSettlementRequest}
    {receiptKid : String} {e : AiLedgerError}
    (herror : settle context ledger request receiptKid = .error e) : ¬ e.WindowFault := by
  rw [settle] at herror
  split at herror
  · cases herror
    simp [AiLedgerError.WindowFault]
  split at herror
  · cases herror
  next row _ =>
  split at herror
  · cases herror
  split at herror
  · cases herror
  simp only at herror
  split at herror
  · cases herror
  cases hcost : settledCost request row.reservedMicros
      (context.tables.priceCatalogueOfProvider row.providerId) with
  | error e' =>
      rw [hcost] at herror
      obtain ⟨text, rfl⟩ := settledCost_error hcost
      cases herror
      simp [AiLedgerError.WindowFault]
  | ok cost =>
      rw [hcost] at herror
      change (if maxSafeMicros < cost ∨ row.reservedMicros < cost then _ else _) = _ at herror
      split at herror
      · cases herror
      split at herror
      · cases hsettle : settleAiOperation context ledger request.operationId cost with
        | error e' =>
            rw [hsettle] at herror
            cases herror
            exact h.settleAiOperation_error hsettle
        | ok after =>
            rw [hsettle] at herror
            cases herror
      split at herror
      · cases herror
      · cases herror

/-- A release costs nothing. -/
theorem settle_released {context : AiLedgerContext} {ledger post : AiCostLedger}
    {request request' : AiSettlementRequest} {receiptKid kid hmac : String} {cost : ℕ}
    {settledAt : ℤ}
    (h : settle context ledger request receiptKid =
      .ok (.settled request' kid hmac cost settledAt .released, post)) : cost = 0 := by
  rcases settle_ok h with ⟨_, hdenied, _⟩ | ⟨row, _, cost', _, _, hanswer, hcost, _⟩
  · cases hdenied
  · injection hanswer with _ _ _ hcosts _ hstate
    have hdisposition : request.disposition = .noDispatch := by
      cases hd : request.disposition with
      | noDispatch => rfl
      | _ =>
          rw [hd] at hstate
          cases hstate
    rw [hcosts]
    rw [settledCost.eq_def] at hcost
    split at hcost
    · exact (Except.ok.inj hcost).symm
    · rw [if_pos hdisposition] at hcost
      exact (Except.ok.inj hcost).symm

/-! ## Runs -/

variable {h : List (Move AiCostState AiCostEvent)} {s : AiCostState}

theorem aiCostSystem_balanced (r : Run aiCostSystem h s) : Balanced s.ledger s.book := by
  apply r.invariant (I := fun s ↦ Balanced s.ledger s.book)
  · rintro _ rfl
    constructor <;> simp
  · rintro _ s e _ _ hbalanced ⟨hadmissible, rfl⟩
    exact (AiCostState.next_carries hbalanced hadmissible).balanced

/-- An admission that a run has issued stays in the book, and settled if it was. -/
theorem aiCostSystem_kept (r : Run aiCostSystem h s) {p : AiCostState} (seen : Seen h s p) :
    ∀ a ∈ p.book, ∃ b ∈ s.book, a.Kept b := by
  apply r.seen_related (R := fun p s ↦ ∀ a ∈ p.book, ∃ b ∈ s.book, a.Kept b) _ _ _ seen
  · intro _ a ha
    exact ⟨a, ha, .refl a⟩
  · intro _ _ _ hpast hstep a ha
    obtain ⟨b, hb, hab⟩ := hpast a ha
    obtain ⟨c, hc, hbc⟩ := hstep b hb
    exact ⟨c, hc, hab.trans hbc⟩
  · rintro _ s e _ hrun ⟨hadmissible, rfl⟩
    exact (AiCostState.next_carries (aiCostSystem_balanced hrun) hadmissible).kept

/-- A settlement answers what the book then says. -/
theorem settle_settled {context : AiLedgerContext} {s : AiCostState} {post : AiCostLedger}
    {request request' : AiSettlementRequest} {receiptKid kid hmac : String} {cost : ℕ}
    {settledAt : ℤ} {state : AiSettlementState} (h : Balanced s.ledger s.book)
    (hok : settle context s.ledger request receiptKid =
      .ok (.settled request' kid hmac cost settledAt state, post)) :
    ∃ b ∈ (s.record post none).book, b.nonce = request.nonce ∧ b.settledMicros = some cost := by
  rcases settle_ok hok with ⟨_, hdenied, _⟩ | ⟨row, _, cost', hrow, hnonce, hanswer, _, hsettling⟩
  · cases hdenied
  · injection hanswer with _ _ _ hcost _ _
    rw [hcost]
    obtain ⟨mem, _⟩ := RowTable.mem_of_find hrow
    obtain ⟨windowId, _, _, _, _, hentry⟩ := (h.rows row mem).admitted request.nonce hnonce
    refine ⟨_, List.mem_map_of_mem hentry, ?_⟩
    cases hsettling with
    | again hsettled hsame =>
        rw [IssuedAdmission.follow_of_carried (h.operation_of_mem mem) hnonce]
        exact ⟨rfl, hsame⟩
    | charged =>
        rw [h.follow_charged mem hnonce _ hentry, if_pos rfl]
        exact ⟨rfl, rfl⟩

/-- In every state that a run of admissions, settlements and reaper passes reaches, each window holds
what its unsettled reservations need, stays within its cap, and has settled what every nonce ever
issued was settled at; no settlement and no pass of the reaper fails for lack of balance; a settled
amount stays, within its reservation; and a fresh nonce is issued with a reservation of the same call,
after every earlier admission of the operation was settled. -/
theorem ai_budget_ledger_balances (r : Run aiCostSystem h s) :
    (∀ w ∈ s.ledger.windows,
      w.reservedMicros = (s.ledger.operations.map (AiOperation.heldIn w.id)).sum ∧
      w.reservedMicros + w.settledMicros ≤ w.capMicros ∧
      w.settledMicros = (s.book.map (IssuedAdmission.chargedTo w.id)).sum) ∧
    (∀ context request receiptKid e, settle context s.ledger request receiptKid = .error e →
      ¬ e.WindowFault) ∧
    (∀ clock unlocked e, reapStaleAiReservations clock s.ledger unlocked = .error e →
      ¬ e.WindowFault) ∧
    (∀ p, Seen h s p → ∀ a ∈ p.book, ∃ b ∈ s.book, a.Kept b) ∧
    ((s.book.map (·.nonce)).Nodup ∧
      ∀ a ∈ s.book, ∀ cost, a.settledMicros = some cost → cost ≤ a.reservedMicros) ∧
    (∀ row ∈ s.ledger.operations, ∀ nonce, row.admissionNonce = some nonce →
      ∃ windowId, row.costWindowId = some windowId ∧
        ⟨nonce, row.id, windowId, row.reservedMicros, row.actualMicros⟩ ∈ s.book) ∧
    (∀ context request receiptKid request' kid hmac cost settledAt state post,
      settle context s.ledger request receiptKid =
        .ok (.settled request' kid hmac cost settledAt state, post) →
      (state = .released → cost = 0) ∧
        ∃ b ∈ (s.next (.settle context request receiptKid)).book,
          b.nonce = request.nonce ∧ b.settledMicros = some cost) ∧
    ∀ context descriptor binding nonce issuedAt expiresAt adoptionWindowEnd post,
      context.nonce ∉ s.book.map (·.nonce) →
      authorizeProperty context s.ledger descriptor binding =
        .ok (.admitted nonce issuedAt expiresAt adoptionWindowEnd, post) →
      s.ledger.carried descriptor.operationId ≠ some nonce →
      nonce = context.nonce ∧
        (∃ row windowId reservedMicros,
          HoldsReservation post descriptor.operationId nonce windowId reservedMicros
            context.budgetNow row ∧
          (s.next (.authorize context descriptor binding)).book =
            ⟨nonce, descriptor.operationId, windowId, reservedMicros, none⟩ :: s.book) ∧
        ∀ a ∈ s.book, a.operationId = descriptor.operationId → a.settledMicros ≠ none := by
  have hbalanced := aiCostSystem_balanced r
  refine ⟨?_, ?_, ?_, ?_, ?_, ?_, ?_, ?_⟩
  · intro w hw
    exact ⟨hbalanced.reserved w hw, (hbalanced.capped w hw).1, hbalanced.settled w hw⟩
  · intro _ _ _ _ herror
    exact hbalanced.settle_error herror
  · intro clock unlocked e herror
    have hreap := hbalanced.reap clock unlocked
    rw [herror] at hreap
    exact hreap
  · intro p seen
    exact aiCostSystem_kept r seen
  · exact ⟨hbalanced.nonces, fun a ha ↦ (hbalanced.entries a ha).2⟩
  · intro row mem nonce hnonce
    obtain ⟨windowId, hwindow, _, _, _, hentry⟩ := (hbalanced.rows row mem).admitted nonce hnonce
    exact ⟨windowId, hwindow, hentry⟩
  · intro context request receiptKid request' kid hmac cost settledAt state post hok
    refine ⟨?_, ?_⟩
    · rintro rfl
      exact settle_released hok
    · rw [AiCostState.next, hok]
      exact settle_settled hbalanced hok
  · intro context descriptor binding nonce issuedAt expiresAt adoptionWindowEnd post hfresh hok hnew
    have hadmission := (authorizeProperty_ok hbalanced hok).admission hbalanced hfresh
    have hnext : s.next (.authorize context descriptor binding) =
        s.record post (issuedAdmission s.ledger post descriptor.operationId) := by
      rw [AiCostState.next, hok]
    cases hadmission with
    | replayed _ hcarried => exact absurd hcarried hnew
    | issued hafter hissued hholds hearlier =>
        refine ⟨rfl, ⟨_, _, _, hholds, ?_⟩, hearlier⟩
        have hmap := hafter.follow_eq
        rw [List.map_cons] at hmap
        rw [hnext, hissued, AiCostState.record, (List.cons.inj hmap).2]
        rfl

/-- One profile, one price list and open controls. -/
def sampleContext (now : ℤ) (nonce : String) : AiLedgerContext where
  tables :=
    { operationProfiles := [⟨"review-analysis", "v2", "review_analysis", some "review_analysis",
        "deployment-v1", "runtime-v1", 65536, 4000, 1200⟩]
      priceCatalogueOfProvider := fun _ ↦ some ⟨1000000, 750000, 75000, 4500000⟩
      providerIds := []
      operationProviderPairing := fun _ _ ↦ none
      replyDynamicDeveloperBytes := fun _ ↦ 0 }
  controls := [⟨"global", "enabled", "accepting"⟩, ⟨"provider:deployment-v1", "enabled", "accepting"⟩,
    ⟨"capability:review_analysis", "enabled", "accepting"⟩]
  now := now
  budgetNow := now
  monthStart := fun _ ↦ 0
  windowId := "june"
  nonce := nonce
  signingKid := "grants-1"

/-- An analysis that is being executed. -/
def sampleHead : AiOperationHead :=
  ⟨"analysis-1", some "acme", some "hotel", "review_analysis", "review_analysis", none, "executing",
    1, some "permit-1", "digest", 900, "", 600000⟩

def sampleDescriptor : AiAdmissionDescriptor :=
  ⟨"review-analysis", "analysis-1", "acme", "hotel", 1, "permit-1", "digest", 900, 60000, 2000, "v2",
    "deployment-v1", "runtime-v1", ""⟩

/-- The admission of the analysis. -/
def sampleAuthorize : AiCostEvent :=
  .authorize (sampleContext 1000 "n1") sampleDescriptor ⟨"keys-1", "hmac"⟩

/-- Its settlement at what the call used. -/
def sampleSettle : AiCostEvent :=
  .settle (sampleContext 9000 "")
    ⟨"analysis-1", "permit-1", 1, "n1", .success, false, true, 1500, 0, 400, 0⟩ "grants-1"

/-- The ledger after the analysis. -/
def sampleCostState : AiCostState :=
  [AiCostEvent.execution sampleHead, sampleAuthorize, sampleSettle].foldl AiCostState.next
    ⟨⟨[], []⟩, []⟩

theorem ai_budget_ledger_balances_settled :
    (sampleCostState.book.map (·.settledMicros) = [some 2925]) ∧
      ∀ w ∈ sampleCostState.ledger.windows,
        w.settledMicros = (sampleCostState.book.map (IssuedAdmission.chargedTo w.id)).sum := by
  have hstart : Run aiCostSystem [] ⟨⟨[], []⟩, []⟩ := .start rfl
  have hclaimed := hstart.next (e := AiCostEvent.execution sampleHead) ⟨trivial, rfl⟩
  have hfresh : sampleAuthorize.Admissible
      (AiCostState.next ⟨⟨[], []⟩, []⟩ (.execution sampleHead)) := by
    show "n1" ∉ (_ : List String)
    decide +kernel
  have hadmitted := hclaimed.next (e := sampleAuthorize) ⟨hfresh, rfl⟩
  have hsettled := hadmitted.next (e := sampleSettle) ⟨trivial, rfl⟩
  refine ⟨by decide +kernel, ?_⟩
  intro w hw
  exact ((ai_budget_ledger_balances hsettled).1 w hw).2.2

end ReputationKey.Ai
