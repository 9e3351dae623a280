import ReputationKey.Ai.CostLedger
import Mathlib.Data.List.Nodup

/-!
# The book of issued admissions

Every nonce that was ever issued, with the window its reservation was made in and what it was settled
at. The ledger balances against it: a window holds what its unsettled reservations need, and has
settled what its admissions cost.
-/

namespace ReputationKey.Ai

open Base

/-! ## The book -/

/-- An admission that was issued. -/
structure IssuedAdmission where
  nonce : String
  operationId : String
  windowId : String
  reservedMicros : ℕ
  settledMicros : Option ℕ
  deriving DecidableEq, Repr

/-- What an admission has charged to a window. -/
def IssuedAdmission.chargedTo (windowId : String) (a : IssuedAdmission) : ℕ :=
  if a.windowId = windowId then a.settledMicros.getD 0 else 0

/-- What an operation holds reserved in a window. -/
def AiOperation.heldIn (windowId : String) (row : AiOperation) : ℕ :=
  if row.costWindowId = some windowId ∧ row.budgetSettledAt = none then row.reservedMicros else 0

/-- The nonce that an operation's row carries. -/
def AiCostLedger.carried (ledger : AiCostLedger) (operationId : String) : Option String :=
  (ledger.operation operationId).bind (·.admissionNonce)

/-- What a row says of an admission while it carries its nonce. -/
def IssuedAdmission.follow (ledger : AiCostLedger) (a : IssuedAdmission) : IssuedAdmission :=
  match ledger.operation a.operationId with
  | some row =>
      if row.admissionNonce = some a.nonce then { a with settledMicros := row.actualMicros } else a
  | none => a

/-- The admission that a change of an operation's row issued. -/
def issuedAdmission (pre post : AiCostLedger) (operationId : String) : Option IssuedAdmission :=
  match post.operation operationId with
  | some row =>
      match row.admissionNonce, row.costWindowId with
      | some nonce, some windowId =>
          if pre.carried operationId = some nonce then none
          else some ⟨nonce, operationId, windowId, row.reservedMicros, none⟩
      | _, _ => none
  | none => none

/-! ## The balance -/

/-- A row without an admission has no reservation; one with an admission has the reservation that the
book says, open or settled. -/
structure AiOperation.Sound (windows : List AiCostWindow) (book : List IssuedAdmission)
    (row : AiOperation) : Prop where
  unadmitted : row.admissionNonce = none → row.costWindowId = none ∧ row.reservedMicros = 0 ∧
    row.budgetReservedAt = none ∧ row.budgetSettledAt = none ∧ row.actualMicros = none
  admitted : ∀ nonce, row.admissionNonce = some nonce → ∃ windowId,
    row.costWindowId = some windowId ∧ windowId ∈ windows.map (·.id) ∧ 0 < row.reservedMicros ∧
      (row.budgetSettledAt = none ↔ row.actualMicros = none) ∧
      ⟨nonce, row.id, windowId, row.reservedMicros, row.actualMicros⟩ ∈ book

/-- The ledger balances against the book. -/
structure Balanced (ledger : AiCostLedger) (book : List IssuedAdmission) : Prop where
  operationIds : (ledger.operations.map (·.id)).Nodup
  windowIds : (ledger.windows.map (·.id)).Nodup
  nonces : (book.map (·.nonce)).Nodup
  reserved : ∀ w ∈ ledger.windows,
    w.reservedMicros = (ledger.operations.map (AiOperation.heldIn w.id)).sum
  settled : ∀ w ∈ ledger.windows,
    w.settledMicros = (book.map (IssuedAdmission.chargedTo w.id)).sum
  capped : ∀ w ∈ ledger.windows, w.reservedMicros + w.settledMicros ≤ w.capMicros ∧
    1 ≤ w.capMicros ∧ w.capMicros ≤ maxSafeMicros
  rows : ∀ row ∈ ledger.operations, row.Sound ledger.windows book
  entries : ∀ a ∈ book, a.windowId ∈ ledger.windows.map (·.id) ∧
    ∀ cost, a.settledMicros = some cost → cost ≤ a.reservedMicros
  current : ∀ a ∈ book, a.settledMicros = none → ∃ row ∈ ledger.operations,
    row.id = a.operationId ∧ row.admissionNonce = some a.nonce

namespace Balanced

variable {ledger ledger' : AiCostLedger} {book : List IssuedAdmission} {row : AiOperation}
  {window : AiCostWindow}

theorem operation_of_mem (h : Balanced ledger book) (mem : row ∈ ledger.operations) :
    ledger.operation row.id = some row :=
  RowTable.find_of_mem h.operationIds mem

/-- Two admissions of one nonce are one. -/
theorem eq_of_nonce (h : Balanced ledger book) {a b : IssuedAdmission} (ha : a ∈ book)
    (hb : b ∈ book) (same : a.nonce = b.nonce) : a = b :=
  List.inj_on_of_nodup_map h.nonces ha hb same

/-- A row agrees with the book's admission of its nonce. -/
theorem entry_of_row (h : Balanced ledger book) (mem : row ∈ ledger.operations)
    {a : IssuedAdmission} (ha : a ∈ book) (hnonce : row.admissionNonce = some a.nonce) :
    a.operationId = row.id ∧ row.costWindowId = some a.windowId ∧
      a.reservedMicros = row.reservedMicros ∧ a.settledMicros = row.actualMicros := by
  obtain ⟨windowId, hwindow, _, _, _, hentry⟩ := (h.rows row mem).admitted a.nonce hnonce
  have hsame := h.eq_of_nonce ha hentry rfl
  rw [hsame]
  exact ⟨rfl, hwindow, rfl, rfl⟩

/-- The book already says what the rows say. -/
theorem follow_eq (h : Balanced ledger book) : book.map (·.follow ledger) = book := by
  conv_rhs => rw [← List.map_id book]
  apply List.map_congr_left
  intro a ha
  rw [IssuedAdmission.follow]
  split
  · next row hrow =>
    split
    · next hnonce =>
      have hsettled := (h.entry_of_row (RowTable.mem_of_find hrow).1 ha hnonce).2.2.2
      rw [← hsettled]
      rfl
    · rfl
  · rfl

/-- A live reservation is covered by its window. -/
theorem live_le (h : Balanced ledger book) (mem : row ∈ ledger.operations)
    (hwindow : row.costWindowId = some window.id) (live : row.budgetSettledAt = none)
    (hmem : window ∈ ledger.windows) : row.reservedMicros ≤ window.reservedMicros := by
  have hheld : row.heldIn window.id = row.reservedMicros := if_pos ⟨hwindow, live⟩
  rw [h.reserved window hmem, ← hheld]
  exact RowTable.le_sum (AiOperation.heldIn window.id) mem

theorem eq_of_id (h : Balanced ledger book) {other : AiOperation} (mem : row ∈ ledger.operations)
    (hother : other ∈ ledger.operations) (same : other.id = row.id) : other = row := by
  have hrow := h.operation_of_mem mem
  have hfound := h.operation_of_mem hother
  rw [same, hrow] at hfound
  exact (Option.some.inj hfound).symm

end Balanced

namespace IssuedAdmission

variable {ledger ledger' : AiCostLedger}

/-- A row that carries the admission says what it was settled at. -/
theorem follow_of_carried {a : IssuedAdmission} {row : AiOperation}
    (hrow : ledger.operation a.operationId = some row) (hnonce : row.admissionNonce = some a.nonce) :
    a.follow ledger = { a with settledMicros := row.actualMicros } := by
  simp only [follow, hrow, if_pos hnonce]

/-- An admission that its row does not carry stays. -/
theorem follow_of_not_carried {a : IssuedAdmission}
    (hnot : ledger.carried a.operationId ≠ some a.nonce) : a.follow ledger = a := by
  rw [AiCostLedger.carried] at hnot
  rw [follow]
  split
  · next row hrow =>
    rw [hrow] at hnot
    exact if_neg hnot
  · rfl

/-- Following a ledger changes what an admission was settled at. -/
theorem follow_eq (a : IssuedAdmission) (ledger : AiCostLedger) :
    ∃ settledMicros, a.follow ledger = { a with settledMicros := settledMicros } := by
  rw [follow]
  split
  · split
    · exact ⟨_, rfl⟩
    · exact ⟨_, rfl⟩
  · exact ⟨_, rfl⟩

/-- Of two ledgers that carry the same nonces the later one is followed. -/
theorem follow_follow (same : ∀ id, ledger'.carried id = ledger.carried id) (a : IssuedAdmission) :
    (a.follow ledger).follow ledger' = a.follow ledger' := by
  by_cases hcarried : ledger.carried a.operationId = some a.nonce
  · obtain ⟨settledMicros, hfollow⟩ := a.follow_eq ledger
    have hlater : ledger'.carried a.operationId = some a.nonce := (same _).trans hcarried
    obtain ⟨row, hrow, hnonce⟩ := Option.bind_eq_some_iff.1 hlater
    rw [hfollow, follow_of_carried hrow hnonce]
    exact follow_of_carried hrow hnonce
  · rw [follow_of_not_carried hcarried]

/-- An admission stays as it was issued, and settled if it was. -/
structure Kept (a b : IssuedAdmission) : Prop where
  nonce : b.nonce = a.nonce
  operationId : b.operationId = a.operationId
  windowId : b.windowId = a.windowId
  reservedMicros : b.reservedMicros = a.reservedMicros
  settledMicros : ∀ cost, a.settledMicros = some cost → b.settledMicros = some cost

theorem Kept.refl (a : IssuedAdmission) : Kept a a :=
  ⟨rfl, rfl, rfl, rfl, fun _ h ↦ h⟩

theorem Kept.trans {a b c : IssuedAdmission} (hab : Kept a b) (hbc : Kept b c) : Kept a c where
  nonce := hbc.nonce.trans hab.nonce
  operationId := hbc.operationId.trans hab.operationId
  windowId := hbc.windowId.trans hab.windowId
  reservedMicros := hbc.reservedMicros.trans hab.reservedMicros
  settledMicros := fun cost h ↦ hbc.settledMicros cost (hab.settledMicros cost h)

end IssuedAdmission

/-! ## Charging a reservation -/

/-- The ledger after an operation's reservation is settled at a cost. -/
def AiCostLedger.charged (ledger : AiCostLedger) (row : AiOperation) (windowId : String)
    (cost : ℕ) (settledAt : ℤ) : AiCostLedger where
  operations := RowTable.alter (·.id) row.id
    (fun r ↦ { r with actualMicros := some cost, budgetSettledAt := some settledAt })
    ledger.operations
  windows := RowTable.alter (·.id) windowId
    (fun w ↦ { w with
      reservedMicros := w.reservedMicros - row.reservedMicros
      settledMicros := w.settledMicros + cost }) ledger.windows

theorem AiCostLedger.charged_operationIds (ledger : AiCostLedger) (row : AiOperation)
    (windowId : String) (cost : ℕ) (settledAt : ℤ) :
    (ledger.charged row windowId cost settledAt).operations.map (·.id) =
      ledger.operations.map (·.id) := by
  rw [AiCostLedger.charged]
  apply RowTable.map_key_alter
  intro _
  rfl

theorem AiCostLedger.charged_windowIds (ledger : AiCostLedger) (row : AiOperation)
    (windowId : String) (cost : ℕ) (settledAt : ℤ) :
    (ledger.charged row windowId cost settledAt).windows.map (·.id) =
      ledger.windows.map (·.id) := by
  rw [AiCostLedger.charged]
  apply RowTable.map_key_alter
  intro _
  rfl

/-- Charging a reservation leaves every nonce where it is. -/
theorem AiCostLedger.charged_carried (ledger : AiCostLedger) (row : AiOperation)
    (windowId : String) (cost : ℕ) (settledAt : ℤ) (id : String) :
    (ledger.charged row windowId cost settledAt).carried id = ledger.carried id := by
  rw [carried, operation, charged, RowTable.find_alter (by intro _; rfl), carried, operation]
  cases RowTable.find (·.id) id ledger.operations with
  | none => rfl
  | some found =>
      rw [Option.map_some, Option.bind_some, Option.bind_some]
      split
      · rfl
      · rfl

namespace Balanced

variable {ledger : AiCostLedger} {book : List IssuedAdmission} {row : AiOperation}
  {nonce windowId : String} {cost : ℕ}

theorem charged_operation (h : Balanced ledger book) (mem : row ∈ ledger.operations)
    (settledAt : ℤ) : (ledger.charged row windowId cost settledAt).operation row.id =
      some { row with actualMicros := some cost, budgetSettledAt := some settledAt } := by
  have hnodup := h.operationIds
  rw [← ledger.charged_operationIds row windowId cost settledAt] at hnodup
  exact RowTable.find_of_mem hnodup (RowTable.mem_alter_of_eq mem rfl)

/-- Charging a reservation settles its admission in the book, and no other. -/
theorem follow_charged (h : Balanced ledger book) (mem : row ∈ ledger.operations)
    (hnonce : row.admissionNonce = some nonce) (settledAt : ℤ) {a : IssuedAdmission}
    (ha : a ∈ book) : a.follow (ledger.charged row windowId cost settledAt) =
      if a.nonce = nonce then { a with settledMicros := some cost } else a := by
  by_cases hown : a.nonce = nonce
  · rw [← hown] at hnonce
    have hrow : (ledger.charged row windowId cost settledAt).operation a.operationId =
        some { row with actualMicros := some cost, budgetSettledAt := some settledAt } := by
      rw [(h.entry_of_row mem ha hnonce).1]
      exact h.charged_operation mem settledAt
    rw [if_pos hown]
    exact IssuedAdmission.follow_of_carried hrow hnonce
  · rw [if_neg hown]
    by_cases hcarried : ledger.carried a.operationId = some a.nonce
    · obtain ⟨other, hother, hcarries⟩ := Option.bind_eq_some_iff.1 hcarried
      have hne : a.operationId ≠ row.id := by
        intro hsame
        rw [hsame, h.operation_of_mem mem] at hother
        rw [← Option.some.inj hother, hnonce] at hcarries
        exact hown (Option.some.inj hcarries).symm
      have hlater : (ledger.charged row windowId cost settledAt).operation a.operationId =
          some other := by
        rw [AiCostLedger.operation, AiCostLedger.charged, RowTable.find_alter (by intro _; rfl)]
        rw [AiCostLedger.operation] at hother
        rw [hother, Option.map_some, if_neg hne]
      rw [IssuedAdmission.follow_of_carried hlater hcarries,
        ← (h.entry_of_row (RowTable.mem_of_find hother).1 ha hcarries).2.2.2]
    · apply IssuedAdmission.follow_of_not_carried
      rw [ledger.charged_carried]
      exact hcarried

/-- Charging a live reservation keeps every admission. -/
theorem kept_charged (h : Balanced ledger book) (mem : row ∈ ledger.operations)
    (hnonce : row.admissionNonce = some nonce) (live : row.budgetSettledAt = none) (settledAt : ℤ)
    {a : IssuedAdmission} (ha : a ∈ book) :
    a.Kept (a.follow (ledger.charged row windowId cost settledAt)) := by
  rw [h.follow_charged mem hnonce settledAt ha]
  split
  · next hown =>
    rw [← hown] at hnonce
    obtain ⟨_, _, _, _, hopen, _⟩ := (h.rows row mem).admitted a.nonce hnonce
    refine ⟨rfl, rfl, rfl, rfl, ?_⟩
    intro _ hcost
    rw [(h.entry_of_row mem ha hnonce).2.2.2, hopen.1 live] at hcost
    cases hcost
  · exact .refl a

/-- The ledger stays balanced when a live reservation is charged at most what it holds. -/
theorem charge (h : Balanced ledger book) (mem : row ∈ ledger.operations)
    (hnonce : row.admissionNonce = some nonce) (live : row.budgetSettledAt = none)
    (hwindow : row.costWindowId = some windowId) (hcost : cost ≤ row.reservedMicros)
    (settledAt : ℤ) :
    Balanced (ledger.charged row windowId cost settledAt)
      (book.map (·.follow (ledger.charged row windowId cost settledAt))) := by
  obtain ⟨_, hwindow', hwindowMem, hpositive, hopen, hentry⟩ := (h.rows row mem).admitted nonce hnonce
  rw [hwindow] at hwindow'
  obtain rfl := Option.some.inj hwindow'
  have hwindowIds := ledger.charged_windowIds row windowId cost settledAt
  have huncharged : row.actualMicros = none := hopen.1 live
  have hbook : book.map (·.follow (ledger.charged row windowId cost settledAt)) =
      RowTable.alter (·.nonce) nonce (fun a ↦ { a with settledMicros := some cost }) book :=
    List.map_congr_left fun a ha ↦ h.follow_charged mem hnonce settledAt ha
  rw [hbook]
  have hnonces : (RowTable.alter (·.nonce) nonce
      (fun a : IssuedAdmission ↦ { a with settledMicros := some cost }) book).map (·.nonce) =
      book.map (·.nonce) := by
    apply RowTable.map_key_alter
    intro _
    rfl
  constructor
  · rw [ledger.charged_operationIds]
    exact h.operationIds
  · rw [hwindowIds]
    exact h.windowIds
  · rw [hnonces]
    exact h.nonces
  · intro w hw
    rcases RowTable.mem_alter hw with ⟨old, hold, hid, rfl⟩ | ⟨hold, hother⟩
    · have hsum := RowTable.sum_alter (AiOperation.heldIn old.id)
        (fun r ↦ { r with actualMicros := some cost, budgetSettledAt := some settledAt })
        h.operationIds mem
      have hbefore : row.heldIn old.id = row.reservedMicros :=
        if_pos ⟨by rw [hwindow, ← hid], live⟩
      have hafter : AiOperation.heldIn old.id
          { row with actualMicros := some cost, budgetSettledAt := some settledAt } = 0 :=
        if_neg (by simp)
      rw [hbefore, hafter, ← h.reserved old hold] at hsum
      simp only [AiCostLedger.charged]
      omega
    · rw [h.reserved w hold]
      symm
      apply RowTable.sum_alter_of_same
      intro r hr hsame
      rw [h.eq_of_id mem hr hsame]
      have hne : windowId ≠ w.id := Ne.symm hother
      simp [AiOperation.heldIn, hwindow, hne]
  · intro w hw
    rcases RowTable.mem_alter hw with ⟨old, hold, hid, rfl⟩ | ⟨hold, hother⟩
    · have hsum := RowTable.sum_alter (IssuedAdmission.chargedTo old.id)
        (fun a : IssuedAdmission ↦ { a with settledMicros := some cost }) h.nonces hentry
      have hbefore : IssuedAdmission.chargedTo old.id
          ⟨nonce, row.id, windowId, row.reservedMicros, row.actualMicros⟩ = 0 := by
        simp [IssuedAdmission.chargedTo, huncharged]
      have hafter : IssuedAdmission.chargedTo old.id
          ⟨nonce, row.id, windowId, row.reservedMicros, some cost⟩ = cost := by
        simp [IssuedAdmission.chargedTo, hid]
      rw [hbefore, hafter, ← h.settled old hold] at hsum
      exact hsum.symm
    · rw [h.settled w hold]
      symm
      apply RowTable.sum_alter_of_same
      intro a ha hsame
      rw [h.eq_of_nonce ha hentry hsame]
      simp [IssuedAdmission.chargedTo, Ne.symm hother]
  · intro w hw
    rcases RowTable.mem_alter hw with ⟨old, hold, hid, rfl⟩ | ⟨hold, _⟩
    · have hcovered := h.live_le mem (show row.costWindowId = some old.id by rw [hwindow, ← hid]) live hold
      obtain ⟨hcapped, hcap⟩ := h.capped old hold
      refine ⟨?_, hcap⟩
      simp only
      omega
    · exact h.capped w hold
  · intro r hr
    rcases RowTable.mem_alter hr with ⟨old, hold, hid, rfl⟩ | ⟨hold, hother⟩
    · obtain rfl := h.eq_of_id mem hold hid
      constructor
      · intro hnone
        rw [hnonce] at hnone
        cases hnone
      · intro nonce' hnonce'
        rw [hnonce] at hnonce'
        obtain rfl := Option.some.inj hnonce'
        rw [hwindowIds]
        exact ⟨windowId, hwindow, hwindowMem, hpositive, by simp,
          RowTable.mem_alter_of_eq hentry rfl⟩
    · obtain ⟨hunadmitted, hadmitted⟩ := h.rows r hold
      refine ⟨hunadmitted, ?_⟩
      intro nonce' hnonce'
      obtain ⟨windowId', hw', hmem', hpos', hopen', hentry'⟩ := hadmitted nonce' hnonce'
      have hne : nonce' ≠ nonce := by
        rintro rfl
        have hsame := h.eq_of_nonce hentry' hentry rfl
        exact hother (congrArg IssuedAdmission.operationId hsame)
      rw [hwindowIds]
      exact ⟨windowId', hw', hmem', hpos', hopen', RowTable.mem_alter_of_ne hentry' hne⟩
  · intro a ha
    rw [hwindowIds]
    rcases RowTable.mem_alter ha with ⟨old, hold, hsame, rfl⟩ | ⟨hold, _⟩
    · rw [h.eq_of_nonce hold hentry hsame]
      refine ⟨hwindowMem, ?_⟩
      rintro _ ⟨⟩
      exact hcost
    · exact h.entries a hold
  · intro a ha hsettled
    rcases RowTable.mem_alter ha with ⟨old, hold, hsame, rfl⟩ | ⟨hold, hother⟩
    · cases hsettled
    · obtain ⟨r, hr, hid, hcarries⟩ := h.current a hold hsettled
      refine ⟨r, RowTable.mem_alter_of_ne hr ?_, hid, hcarries⟩
      intro hsame
      rw [h.eq_of_id mem hr hsame, hnonce] at hcarries
      exact hother (Option.some.inj hcarries).symm

/-- Changing a row stays balanced when the row holds what it held, is sound, and still carries an
admission that is open. -/
theorem alterRow (h : Balanced ledger book) (mem : row ∈ ledger.operations)
    {change : AiOperation → AiOperation} (hid : ∀ r, (change r).id = r.id)
    (hheld : ∀ w, (change row).heldIn w = row.heldIn w)
    (hsound : (change row).Sound ledger.windows book)
    (hopen : ∀ a ∈ book, a.settledMicros = none → row.admissionNonce = some a.nonce →
      (change row).admissionNonce = some a.nonce) :
    Balanced { ledger with operations := RowTable.alter (·.id) row.id change ledger.operations }
      book := by
  have hids : (RowTable.alter (·.id) row.id change ledger.operations).map (·.id) =
      ledger.operations.map (·.id) := RowTable.map_key_alter hid _ _
  refine { h with operationIds := ?_, reserved := ?_, rows := ?_, current := ?_ }
  · rw [hids]
    exact h.operationIds
  · intro w hw
    rw [h.reserved w hw]
    symm
    apply RowTable.sum_alter_of_same
    intro r hr hsame
    rw [h.eq_of_id mem hr hsame]
    exact hheld w.id
  · intro r hr
    rcases RowTable.mem_alter hr with ⟨old, hold, hsame, rfl⟩ | ⟨hold, _⟩
    · rw [h.eq_of_id mem hold hsame]
      exact hsound
    · exact h.rows r hold
  · intro a ha hsettled
    obtain ⟨r, hr, hown, hcarries⟩ := h.current a ha hsettled
    by_cases hsame : r.id = row.id
    · rw [h.eq_of_id mem hr hsame] at hown hcarries
      exact ⟨change row, RowTable.mem_alter_of_eq mem rfl, (hid row).trans hown,
        hopen a ha hsettled hcarries⟩
    · exact ⟨r, RowTable.mem_alter_of_ne hr hsame, hown, hcarries⟩

/-- The admission of a settled row is settled. -/
theorem not_open (h : Balanced ledger book) (mem : row ∈ ledger.operations)
    (settled : row.budgetSettledAt ≠ none) {a : IssuedAdmission} (ha : a ∈ book)
    (hnonce : row.admissionNonce = some a.nonce) : a.settledMicros ≠ none := by
  intro hnone
  obtain ⟨windowId, _, _, _, hopen, _⟩ := (h.rows row mem).admitted a.nonce hnonce
  rw [(h.entry_of_row mem ha hnonce).2.2.2] at hnone
  exact settled (hopen.2 hnone)

/-- A settled admission may make way: the book keeps what it cost. -/
theorem clear (h : Balanced ledger book) (mem : row ∈ ledger.operations)
    (settled : row.budgetSettledAt ≠ none) :
    Balanced { ledger with
      operations := RowTable.alter (·.id) row.id releasedAdmissionCleared ledger.operations }
      book := by
  apply h.alterRow mem
  · intro _
    rfl
  · intro w
    rw [AiOperation.heldIn, AiOperation.heldIn, if_neg (by simp [releasedAdmissionCleared]),
      if_neg (by simp [settled])]
  · constructor
    · intro _
      exact ⟨rfl, rfl, rfl, rfl, rfl⟩
    · intro nonce hnonce
      cases hnonce
  · intro a ha hnone hnonce
    exact absurd hnone (h.not_open mem settled ha hnonce)

/-- No row and no admission is charged to a window that is not there. -/
theorem openWindow (h : Balanced ledger book) {window : AiCostWindow}
    (hfresh : window.id ∉ ledger.windows.map (·.id)) (hreserved : window.reservedMicros = 0)
    (hsettled : window.settledMicros = 0)
    (hcap : 1 ≤ window.capMicros ∧ window.capMicros ≤ maxSafeMicros) :
    Balanced { ledger with windows := window :: ledger.windows } book := by
  refine { h with
    windowIds := ?_
    reserved := ?_
    settled := ?_
    capped := ?_
    rows := ?_
    entries := ?_ }
  · exact List.nodup_cons.2 ⟨hfresh, h.windowIds⟩
  · intro w hw
    rcases List.mem_cons.1 hw with rfl | hw
    · rw [hreserved]
      symm
      apply List.sum_eq_zero
      intro n hn
      obtain ⟨r, hr, rfl⟩ := List.mem_map.1 hn
      apply if_neg
      rintro ⟨hwindow, _⟩
      cases hnonce : r.admissionNonce with
      | none =>
          rw [((h.rows r hr).unadmitted hnonce).1] at hwindow
          cases hwindow
      | some nonce =>
          obtain ⟨windowId, hown, hthere, _⟩ := (h.rows r hr).admitted nonce hnonce
          rw [hown] at hwindow
          rw [Option.some.inj hwindow] at hthere
          exact hfresh hthere
    · exact h.reserved w hw
  · intro w hw
    rcases List.mem_cons.1 hw with rfl | hw
    · rw [hsettled]
      symm
      apply List.sum_eq_zero
      intro n hn
      obtain ⟨a, ha, rfl⟩ := List.mem_map.1 hn
      apply if_neg
      rintro hwindow
      apply hfresh
      rw [← hwindow]
      exact (h.entries a ha).1
    · exact h.settled w hw
  · intro w hw
    rcases List.mem_cons.1 hw with rfl | hw
    · rw [hreserved, hsettled]
      exact ⟨Nat.zero_le _, hcap⟩
    · exact h.capped w hw
  · intro r hr
    refine ⟨(h.rows r hr).unadmitted, ?_⟩
    intro nonce hnonce
    obtain ⟨windowId, hown, hthere, hrest⟩ := (h.rows r hr).admitted nonce hnonce
    exact ⟨windowId, hown, List.mem_cons_of_mem _ hthere, hrest⟩
  · intro a ha
    exact ⟨List.mem_cons_of_mem _ (h.entries a ha).1, (h.entries a ha).2⟩

end Balanced

/-! ## Issuing an admission -/

/-- The ledger after a reservation is made in a window and a row is changed to carry it. -/
def AiCostLedger.issued (ledger : AiCostLedger) (operationId windowId : String) (reservedMicros : ℕ)
    (change : AiOperation → AiOperation) : AiCostLedger where
  operations := RowTable.alter (·.id) operationId change ledger.operations
  windows := RowTable.alter (·.id) windowId
    (fun w ↦ { w with reservedMicros := w.reservedMicros + reservedMicros }) ledger.windows

/-- A change of a row that gives it an open admission. -/
structure IssuingChange (change : AiOperation → AiOperation) (nonce windowId : String)
    (reservedMicros : ℕ) : Prop where
  id : ∀ r, (change r).id = r.id
  admissionNonce : ∀ r, (change r).admissionNonce = some nonce
  costWindowId : ∀ r, (change r).costWindowId = some windowId
  reserved : ∀ r, (change r).reservedMicros = reservedMicros
  budgetSettledAt : ∀ r, (change r).budgetSettledAt = r.budgetSettledAt
  actualMicros : ∀ r, (change r).actualMicros = r.actualMicros

namespace Balanced

variable {ledger : AiCostLedger} {book : List IssuedAdmission} {row : AiOperation}
  {window : AiCostWindow} {nonce : String} {reservedMicros : ℕ}
  {change : AiOperation → AiOperation}

/-- An admission may be issued to a row without one, out of a window with room. -/
theorem issue (h : Balanced ledger book) (mem : row ∈ ledger.operations)
    (hnone : row.admissionNonce = none) (hwindow : window ∈ ledger.windows)
    (hroom : window.reservedMicros + window.settledMicros + reservedMicros ≤ window.capMicros)
    (hpositive : 0 < reservedMicros) (hfresh : nonce ∉ book.map (·.nonce))
    (hchange : IssuingChange change nonce window.id reservedMicros) :
    Balanced (ledger.issued row.id window.id reservedMicros change)
      (⟨nonce, row.id, window.id, reservedMicros, none⟩ :: book) := by
  obtain ⟨hunreserved, _, _, hunsettled, huncharged⟩ := (h.rows row mem).unadmitted hnone
  have hids : (ledger.issued row.id window.id reservedMicros change).operations.map (·.id) =
      ledger.operations.map (·.id) := RowTable.map_key_alter hchange.id _ _
  have hwindowIds : (ledger.issued row.id window.id reservedMicros change).windows.map (·.id) =
      ledger.windows.map (·.id) := by
    rw [AiCostLedger.issued]
    apply RowTable.map_key_alter
    intro _
    rfl
  have hbefore : ∀ w, row.heldIn w = 0 := by
    intro w
    apply if_neg
    rw [hunreserved]
    simp
  have hwindowAt : ∀ w ∈ ledger.windows, w.id = window.id → w = window := by
    intro w hw hsame
    exact List.inj_on_of_nodup_map h.windowIds hw hwindow hsame
  constructor
  · rw [hids]
    exact h.operationIds
  · rw [hwindowIds]
    exact h.windowIds
  · exact List.nodup_cons.2 ⟨hfresh, h.nonces⟩
  · intro w hw
    rcases RowTable.mem_alter hw with ⟨old, hold, hid, rfl⟩ | ⟨hold, hother⟩
    · have hsum := RowTable.sum_alter (AiOperation.heldIn old.id) change
        h.operationIds mem
      have hafter : (change row).heldIn old.id = reservedMicros := by
        rw [AiOperation.heldIn, hchange.costWindowId, hchange.budgetSettledAt, hchange.reserved,
          if_pos ⟨by rw [hid], hunsettled⟩]
      rw [hbefore, hafter, ← h.reserved old hold] at hsum
      exact hsum.symm
    · rw [h.reserved w hold]
      symm
      apply RowTable.sum_alter_of_same
      intro r hr hsame
      rw [h.eq_of_id mem hr hsame, hbefore]
      apply if_neg
      rw [hchange.costWindowId]
      rintro ⟨hwid, _⟩
      exact hother (Option.some.inj hwid).symm
  · intro w hw
    have hnew : ∀ w, IssuedAdmission.chargedTo w
        ⟨nonce, row.id, window.id, reservedMicros, none⟩ = 0 := by
      intro w
      simp [IssuedAdmission.chargedTo]
    rw [List.map_cons, List.sum_cons, hnew, Nat.zero_add]
    rcases RowTable.mem_alter hw with ⟨old, hold, hid, rfl⟩ | ⟨hold, _⟩
    · exact h.settled old hold
    · exact h.settled w hold
  · intro w hw
    rcases RowTable.mem_alter hw with ⟨old, hold, hid, rfl⟩ | ⟨hold, _⟩
    · rw [hwindowAt old hold hid]
      refine ⟨?_, (h.capped window hwindow).2⟩
      simp only
      omega
    · exact h.capped w hold
  · intro r hr
    rcases RowTable.mem_alter hr with ⟨old, hold, hid, rfl⟩ | ⟨hold, _⟩
    · rw [h.eq_of_id mem hold hid]
      constructor
      · rw [hchange.admissionNonce]
        rintro ⟨⟩
      · intro nonce' hnonce'
        rw [hchange.admissionNonce] at hnonce'
        obtain rfl := Option.some.inj hnonce'
        rw [hwindowIds, hchange.reserved, hchange.budgetSettledAt, hchange.actualMicros, hchange.id,
          hunsettled, huncharged]
        exact ⟨window.id, hchange.costWindowId row, List.mem_map_of_mem hwindow, hpositive,
          by simp, List.mem_cons_self⟩
    · refine ⟨(h.rows r hold).unadmitted, ?_⟩
      intro nonce' hnonce'
      obtain ⟨windowId, hown, hthere, hpos, hopen, hentry⟩ := (h.rows r hold).admitted nonce' hnonce'
      rw [hwindowIds]
      exact ⟨windowId, hown, hthere, hpos, hopen, List.mem_cons_of_mem _ hentry⟩
  · intro a ha
    rw [hwindowIds]
    rcases List.mem_cons.1 ha with rfl | ha
    · refine ⟨List.mem_map_of_mem hwindow, ?_⟩
      rintro _ ⟨⟩
    · exact h.entries a ha
  · intro a ha hsettled
    rcases List.mem_cons.1 ha with rfl | ha
    · exact ⟨change row, RowTable.mem_alter_of_eq mem rfl, hchange.id row,
        hchange.admissionNonce row⟩
    · obtain ⟨r, hr, hown, hcarries⟩ := h.current a ha hsettled
      refine ⟨r, RowTable.mem_alter_of_ne hr ?_, hown, hcarries⟩
      intro hsame
      rw [h.eq_of_id mem hr hsame, hnone] at hcarries
      cases hcarries

end Balanced

end ReputationKey.Ai
