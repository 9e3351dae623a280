import ReputationKey.Shared.ChartBuckets

/-!
# Chart buckets lose nothing

The buckets of a unit are numbered through the calendar. The code's starts and its cursor are those
of the numbered buckets, so the buckets it returns run from the first that holds a row to the last.
-/

namespace ReputationKey.Shared

open Base Civil
open ReputationKey.Review (Text)

/-! ## The buckets of the calendar -/

/-- The day that opens a bucket, the buckets numbered through the calendar. -/
def slotStart (unit : BucketUnit) (slot : ℤ) : ℤ :=
  match unit with
  | .day => slot
  | .week => 7 * slot + 4
  | .month => firstOfMonth slot

/-- The number of the bucket of a day. -/
def slotOf (unit : BucketUnit) (day : ℤ) : ℤ :=
  match unit with
  | .day => day
  | .week => (day - 4) / 7
  | .month => monthIndex day

theorem slotStart_lt (unit : BucketUnit) (slot : ℤ) : slotStart unit slot < slotStart unit (slot + 1) := by
  cases unit with
  | day => simp only [slotStart]; omega
  | week => simp only [slotStart]; omega
  | month => exact firstOfMonth_lt slot

theorem slotStart_mono (unit : BucketUnit) {slot other : ℤ} (h : slot ≤ other) :
    slotStart unit slot ≤ slotStart unit other := by
  cases unit with
  | day => exact h
  | week => simp only [slotStart]; omega
  | month => exact firstOfMonth_mono h

theorem slotStart_strictMono (unit : BucketUnit) {slot other : ℤ} (h : slot < other) :
    slotStart unit slot < slotStart unit other :=
  lt_of_lt_of_le (slotStart_lt unit slot) (slotStart_mono unit h)

/-- A day lies in its bucket. -/
theorem slotOf_spec (unit : BucketUnit) (day : ℤ) :
    slotStart unit (slotOf unit day) ≤ day ∧ day < slotStart unit (slotOf unit day + 1) := by
  cases unit with
  | day => simp only [slotStart, slotOf]; omega
  | week => simp only [slotStart, slotOf]; omega
  | month => exact monthIndex_spec day

/-- No other bucket has the day. -/
theorem slotOf_eq_iff {unit : BucketUnit} {day slot : ℤ} :
    slotOf unit day = slot ↔ slotStart unit slot ≤ day ∧ day < slotStart unit (slot + 1) := by
  constructor
  · rintro rfl
    exact slotOf_spec unit day
  · rintro ⟨low, high⟩
    obtain ⟨low', high'⟩ := slotOf_spec unit day
    by_contra other
    rcases lt_or_gt_of_ne other with before | after
    · have := slotStart_mono unit (show slotOf unit day + 1 ≤ slot by omega)
      omega
    · have := slotStart_mono unit (show slot + 1 ≤ slotOf unit day by omega)
      omega

/-- The cursor goes from the start of a bucket to that of the next. -/
theorem nextCursor_slotStart (unit : BucketUnit) (slot : ℤ) :
    nextCursor unit (slotStart unit slot) = slotStart unit (slot + 1) := by
  cases unit with
  | day => rfl
  | week => simp only [nextCursor, slotStart]; omega
  | month =>
      obtain ⟨year, month, date⟩ := ofDay_first 0 slot
      have nextYear : (0 : ℤ) + slot / 12 + (slot % 12 + 1) / 12 = 0 + (slot + 1) / 12 := by omega
      have nextMonth : (slot % 12 + 1) % 12 = (slot + 1) % 12 := by omega
      simp only [nextCursor, slotStart, firstOfMonth, year, month, date]
      rw [makeDay_carry, nextYear, nextMonth, ← makeDay_carry]

/-- The start of a bucket as the code writes it. -/
theorem bucketStart_isoText (unit : BucketUnit) {day : ℤ} (h : IsWritten day) :
    bucketStart (isoText day) unit = some (isoText (slotStart unit (slotOf unit day))) := by
  cases unit with
  | day => rfl
  | week =>
      have monday : day - (if weekday day = 0 then 6 else weekday day - 1) = 7 * ((day - 4) / 7) + 4 := by
        simp only [weekday]
        split_ifs <;> omega
      simp only [bucketStart, startOfWeek, dateOfText_isoText h, Option.map_some, monday, slotStart, slotOf]
  | month =>
      obtain ⟨low, high, -⟩ := monthOfDay_spec day
      obtain ⟨year, month, date⟩ := ofDay_first (yearOfDay day) (monthOfDay day)
      have sameYear : yearOfDay (firstOfMonth (monthIndex day)) = yearOfDay day := by
        rw [firstOfMonth_monthIndex, year]
        omega
      have sameMonth : monthOfDay (firstOfMonth (monthIndex day)) = monthOfDay day := by
        rw [firstOfMonth_monthIndex, month]
        omega
      have first : dateOfDay (firstOfMonth (monthIndex day)) = 1 := by
        rw [firstOfMonth_monthIndex, date]
      have written : IsWritten (firstOfMonth (monthIndex day)) := by
        rw [IsWritten, sameYear]
        exact h
      simp only [bucketStart, slotStart, slotOf]
      rw [isoText_eq h, isoText_eq written, sameYear, sameMonth, first]
      rfl

/-! ## Grouping -/

section Rows

variable {τ : Type} (unit : BucketUnit) (getDate : τ → Option Text)

/-- The day of a row. -/
def localDay (row : τ) : Option ℤ := (getDate row).bind dateOfText

/-- The bucket of a row. -/
def rowSlot (row : τ) : Option ℤ := (localDay getDate row).map (slotOf unit)

/-- Local dates that are absent or valid, in buckets whose own starts can be written. -/
def HasLocalDates (rows : List τ) : Prop :=
  ∀ row ∈ rows, ∀ text, getDate row = some text → text = [] ∨
    ∃ day, text = isoText day ∧ IsWritten day ∧ IsWritten (slotStart unit (slotOf unit day))

variable {unit getDate}

theorem lookup_addRow {start other : Text} {row : τ} {grouped : List (Text × List τ)} :
    ((addRow start row grouped).lookup other).getD [] =
      (grouped.lookup other).getD [] ++ if start = other then [row] else [] := by
  induction grouped with
  | nil =>
      by_cases same : start = other
      · simp [addRow, same]
      · simp [addRow, same, List.lookup_cons, beq_false_of_ne (Ne.symm same)]
  | cons entry others ih =>
      obtain ⟨key, rows⟩ := entry
      by_cases here : key = start
      · subst here
        by_cases same : key = other
        · simp [addRow, same]
        · simp [addRow, same, List.lookup_cons, beq_false_of_ne (Ne.symm same)]
      · by_cases same : key = other
        · subst same
          simp [addRow, here, Ne.symm here]
        · simp only [addRow, if_neg here, List.lookup_cons, beq_false_of_ne (Ne.symm same)]
          exact ih

theorem mem_addRow {start other : Text} {row : τ} {grouped : List (Text × List τ)} :
    other ∈ (addRow start row grouped).map (·.1) ↔ other = start ∨ other ∈ grouped.map (·.1) := by
  induction grouped with
  | nil => simp [addRow]
  | cons entry others ih =>
      obtain ⟨key, rows⟩ := entry
      by_cases here : key = start
      · subst here
        simp [addRow]
      · simp only [addRow, if_neg here, List.map_cons, List.mem_cons, ih]
        constructor <;> rintro (h | h | h) <;> simp [h]

/-- The text that opens the bucket of a row. -/
def rowStart (unit : BucketUnit) (getDate : τ → Option Text) (row : τ) : Option Text :=
  (rowSlot unit getDate row).map fun slot ↦ isoText (slotStart unit slot)

/-- What one row adds. -/
theorem addDated_eq {rows : List τ} (valid : HasLocalDates unit getDate rows) {row : τ}
    (member : row ∈ rows) (grouped : List (Text × List τ)) :
    addDated unit getDate grouped row =
      some ((rowStart unit getDate row).elim grouped fun start ↦ addRow start row grouped) := by
  cases read : getDate row with
  | none => simp [addDated, rowStart, rowSlot, localDay, read]
  | some text =>
      rcases valid row member text read with rfl | ⟨day, rfl, written, -⟩
      · simp [addDated, rowStart, rowSlot, localDay, read, dateOfText]
      · have filled : isoText day ≠ [] := by
          rw [isoText_eq written]
          simp [fourDigits, twoDigits]
        simp [addDated, rowStart, rowSlot, localDay, read, filled, dateOfText_isoText written,
          bucketStart_isoText unit written]

/-- The rows come under the texts of their buckets, in their order. -/
theorem byStart_spec {rows : List τ} (valid : HasLocalDates unit getDate rows) :
    ∃ grouped, byStart unit getDate rows = some grouped ∧
      (∀ start, (grouped.lookup start).getD [] =
        rows.filter fun row ↦ decide (rowStart unit getDate row = some start)) ∧
      ∀ start, start ∈ grouped.map (·.1) ↔ ∃ row ∈ rows, rowStart unit getDate row = some start := by
  suffices general : ∀ (before : List (Text × List τ)) (rest : List τ), (∀ row ∈ rest, row ∈ rows) →
      ∃ grouped, rest.foldlM (addDated unit getDate) before = some grouped ∧
        (∀ start, (grouped.lookup start).getD [] = (before.lookup start).getD [] ++
          rest.filter fun row ↦ decide (rowStart unit getDate row = some start)) ∧
        ∀ start, start ∈ grouped.map (·.1) ↔ start ∈ before.map (·.1) ∨
          ∃ row ∈ rest, rowStart unit getDate row = some start by
    obtain ⟨grouped, found, rowsOf, keys⟩ := general [] rows fun _ ↦ id
    refine ⟨grouped, found, ?_, ?_⟩
    · intro start
      rw [rowsOf]
      rfl
    · intro start
      rw [keys]
      simp
  intro before rest within
  induction rest generalizing before with
  | nil => exact ⟨before, rfl, by simp, by simp⟩
  | cons row rest ih =>
      obtain ⟨grouped, found, rowsOf, keys⟩ := ih
        ((rowStart unit getDate row).elim before fun start ↦ addRow start row before)
        fun other member ↦ within other (List.mem_cons_of_mem _ member)
      refine ⟨grouped, ?_, ?_, ?_⟩
      · rw [List.foldlM_cons, addDated_eq valid (within row List.mem_cons_self) before]
        exact found
      · intro start
        rw [rowsOf, List.filter_cons]
        cases opened : rowStart unit getDate row with
        | none => simp
        | some opening =>
            rw [Option.elim_some, lookup_addRow]
            by_cases same : opening = start
            · simp [same]
            · simp [same]
      · intro start
        rw [keys]
        cases opened : rowStart unit getDate row with
        | none => simp [opened]
        | some opening =>
            rw [Option.elim_some, mem_addRow]
            simp only [List.exists_mem_cons_iff, opened, Option.some.injEq]
            constructor
            · rintro ((rfl | h) | h)
              · exact Or.inr (Or.inl rfl)
              · exact Or.inl h
              · exact Or.inr (Or.inr h)
            · rintro (h | rfl | h)
              · exact Or.inl (Or.inr h)
              · exact Or.inl (Or.inl rfl)
              · exact Or.inr h

end Rows

/-! ## Filling the gaps -/

/-- The cursor writes the start of every bucket to the last. -/
theorem fillFrom_eq (unit : BucketUnit) {guard count : ℕ} (enough : count ≤ guard) (slot : ℤ) :
    fillFrom unit (slotStart unit (slot + count - 1)) guard (slotStart unit slot) =
      (List.range count).map fun k : ℕ ↦ isoText (slotStart unit (slot + k)) := by
  induction count generalizing guard slot with
  | zero =>
      cases guard with
      | zero => rfl
      | succ guard =>
          have past := slotStart_lt unit (slot - 1)
          rw [sub_add_cancel] at past
          have last : slot + ((0 : ℕ) : ℤ) - 1 = slot - 1 := by omega
          rw [fillFrom, last, if_neg (not_le.2 past)]
          rfl
  | succ count ih =>
      cases guard with
      | zero => contradiction
      | succ guard =>
          have last : slot + ((count + 1 : ℕ) : ℤ) - 1 = slot + 1 + count - 1 := by omega
          have within := slotStart_mono unit (show slot ≤ slot + 1 + count - 1 by omega)
          rw [fillFrom, last, if_pos within, nextCursor_slotStart, ih (Nat.le_of_succ_le_succ enough),
            List.range_succ_eq_map, List.map_cons, List.map_map]
          congr 1
          · rw [Nat.cast_zero, add_zero]
          · apply List.map_congr_left
            intro k _
            have shifted : slot + 1 + (k : ℤ) = slot + ((k + 1 : ℕ) : ℤ) := by omega
            rw [shifted]
            rfl

/-! ## The buckets -/

/-- The first four units of a start. -/
def yearText (unit : BucketUnit) (slot : ℤ) : Text := (isoText (slotStart unit slot)).take 4

section Rows

variable {τ : Type} (formatters : LabelFormatters) (unit : BucketUnit) (getDate : τ → Option Text)
  (rows : List τ)

/-- The buckets that hold a row. -/
def rowSlots : Set ℤ := {slot | ∃ row ∈ rows, rowSlot unit getDate row = some slot}

/-- The bucket that comes so many buckets after a first one. -/
def slotBucket (first : ℤ) (k : ℕ) : Bucket τ where
  start := isoText (slotStart unit (first + k))
  label := bucketLabel formatters unit
    (decide (k = 0 ∨ yearText unit (first + k) ≠ yearText unit (first + k - 1)))
    (slotStart unit (first + k))
  rows := rows.filter fun row ↦ decide (rowSlot unit getDate row = some (first + k))

variable {formatters unit getDate rows}

/-- The labels of consecutive buckets, from the year of the one before. -/
theorem labelled_eq {grouped : List (Text × List τ)} {count : ℕ} {slot : ℤ} (previousYear : Option Text)
    (written : ∀ k < count, IsWritten (slotStart unit (slot + k))) :
    labelled formatters unit grouped previousYear
        ((List.range count).map fun k : ℕ ↦ isoText (slotStart unit (slot + k))) =
      some ((List.range count).map fun k : ℕ ↦
        { start := isoText (slotStart unit (slot + k))
          label := bucketLabel formatters unit (some (yearText unit (slot + k)) !=
            if k = 0 then previousYear else some (yearText unit (slot + k - 1)))
            (slotStart unit (slot + k))
          rows := (grouped.lookup (isoText (slotStart unit (slot + k)))).getD [] }) := by
  induction count generalizing slot previousYear with
  | zero => rfl
  | succ count ih =>
      have first := written 0 (Nat.zero_lt_succ count)
      have rest : (List.range count).map ((fun k : ℕ ↦ isoText (slotStart unit (slot + k))) ∘ Nat.succ) =
          (List.range count).map fun k : ℕ ↦ isoText (slotStart unit (slot + 1 + k)) := by
        apply List.map_congr_left
        intro k _
        have shifted : slot + ((k + 1 : ℕ) : ℤ) = slot + 1 + (k : ℤ) := by omega
        simp only [Function.comp_apply, Nat.succ_eq_add_one, shifted]
      rw [List.range_succ_eq_map, List.map_cons, List.map_map, rest, labelled, dateOfText_isoText first,
        Option.bind_some, ih _ fun k bound ↦ by
          have shifted : slot + 1 + (k : ℤ) = slot + ((k + 1 : ℕ) : ℤ) := by omega
          rw [shifted]
          exact written (k + 1) (Nat.succ_lt_succ bound)]
      rw [Option.map_some, List.map_cons, List.map_map]
      congr 2
      apply List.map_congr_left
      intro k _
      have shifted : slot + 1 + (k : ℤ) = slot + ((k + 1 : ℕ) : ℤ) := by omega
      simp only [Function.comp_apply, Nat.succ_eq_add_one, shifted, Nat.add_one_ne_zero, if_false]
      by_cases zero : k = 0
      · subst zero
        simp [yearText]
      · have before : slot + ((k + 1 : ℕ) : ℤ) - 1 = slot + 1 + (k : ℤ) - 1 := by omega
        simp [zero]

/-- The ends of sorted texts. -/
theorem head_insertionSort {texts : List Text} {first : Text}
    (h : (texts.insertionSort Json.textLe).head? = some first) :
    first ∈ texts ∧ ∀ text ∈ texts, Json.textLe first text := by
  have total : Std.Total Json.textLe := ⟨Json.textLe_total⟩
  have trans : IsTrans Text Json.textLe := ⟨fun _ _ _ ↦ Json.textLe_trans⟩
  have sorted := List.pairwise_insertionSort Json.textLe texts
  have members := fun text ↦ (List.perm_insertionSort Json.textLe texts).mem_iff (a := text)
  cases listed : texts.insertionSort Json.textLe with
  | nil => simp [listed] at h
  | cons text rest =>
      rw [listed] at h sorted members
      obtain rfl := Option.some.inj h
      refine ⟨(members text).1 List.mem_cons_self, ?_⟩
      intro other member
      rcases List.mem_cons.1 ((members other).2 member) with rfl | later
      · exact le_refl _
      · exact List.rel_of_pairwise_cons sorted later

theorem last_insertionSort {texts : List Text} {last : Text}
    (h : (texts.insertionSort Json.textLe).getLast? = some last) :
    last ∈ texts ∧ ∀ text ∈ texts, Json.textLe text last := by
  have total : Std.Total Json.textLe := ⟨Json.textLe_total⟩
  have trans : IsTrans Text Json.textLe := ⟨fun _ _ _ ↦ Json.textLe_trans⟩
  have sorted := List.pairwise_insertionSort Json.textLe texts
  have members := fun text ↦ (List.perm_insertionSort Json.textLe texts).mem_iff (a := text)
  obtain ⟨front, listed⟩ := List.getLast?_eq_some_iff.1 h
  rw [listed] at sorted members
  refine ⟨(members last).1 (by simp), ?_⟩
  intro other member
  rcases List.mem_append.1 ((members other).2 member) with before | same
  · exact (List.pairwise_append.1 sorted).2.2 other before last List.mem_cons_self
  · rw [List.mem_singleton.1 same]
    exact le_refl _

/-- The start of a bucket that holds a row can be written. -/
theorem written_of_rowSlots (valid : HasLocalDates unit getDate rows) {slot : ℤ}
    (h : slot ∈ rowSlots unit getDate rows) : IsWritten (slotStart unit slot) := by
  obtain ⟨row, member, found⟩ := h
  obtain ⟨day, read, rfl⟩ := Option.map_eq_some_iff.1 found
  obtain ⟨text, date, parsed⟩ := Option.bind_eq_some_iff.1 read
  rcases valid row member text date with rfl | ⟨day', rfl, dayWritten, start⟩
  · simp [dateOfText] at parsed
  · rw [dateOfText_isoText dayWritten] at parsed
    obtain rfl := Option.some.inj parsed
    exact start

/-- Two buckets have two texts. -/
theorem rowStart_eq_some_iff (valid : HasLocalDates unit getDate rows) {row : τ} (member : row ∈ rows)
    {slot : ℤ} (written : IsWritten (slotStart unit slot)) :
    rowStart unit getDate row = some (isoText (slotStart unit slot)) ↔
      rowSlot unit getDate row = some slot := by
  rw [rowStart]
  cases found : rowSlot unit getDate row with
  | none => simp
  | some other =>
      have writtenToo := written_of_rowSlots valid ⟨row, member, found⟩
      simp only [Option.map_some, Option.some.injEq]
      constructor
      · intro same
        have days := isoText_injective writtenToo written same
        rcases lt_trichotomy other slot with less | same | more
        · exact absurd days (slotStart_strictMono unit less).ne
        · exact same
        · exact absurd days (slotStart_strictMono unit more).ne'
      · rintro rfl
        rfl

/-- The buckets run from the first that holds a row to the last, each with its rows. -/
theorem groupByBucket_eq (valid : HasLocalDates unit getDate rows)
    (few : ∀ a ∈ rowSlots unit getDate rows, ∀ b ∈ rowSlots unit getDate rows, b - a < 1000) :
    (rowSlots unit getDate rows = ∅ ∧ groupByBucket formatters rows unit getDate = some []) ∨
      ∃ (first : ℤ) (count : ℕ), IsLeast (rowSlots unit getDate rows) first ∧
        IsGreatest (rowSlots unit getDate rows) (first + count) ∧
        groupByBucket formatters rows unit getDate =
          some ((List.range (count + 1)).map (slotBucket formatters unit getDate rows first)) := by
  obtain ⟨grouped, found, rowsOf, keys⟩ := byStart_spec valid
  have opened : ∀ start, start ∈ grouped.map (·.1) ↔
      ∃ slot ∈ rowSlots unit getDate rows, start = isoText (slotStart unit slot) := by
    intro start
    rw [keys]
    constructor
    · rintro ⟨row, member, opened⟩
      obtain ⟨slot, rowSlot, rfl⟩ := Option.map_eq_some_iff.1 opened
      exact ⟨slot, ⟨row, member, rowSlot⟩, rfl⟩
    · rintro ⟨slot, ⟨row, member, rowSlot⟩, rfl⟩
      exact ⟨row, member, by rw [rowStart, rowSlot]; rfl⟩
  cases head : ((grouped.map (·.1)).insertionSort Json.textLe).head? with
  | none =>
      left
      have empty : grouped.map (·.1) = [] := by
        have sorted := List.head?_eq_none_iff.1 head
        have perm := List.perm_insertionSort Json.textLe (grouped.map (·.1))
        rw [sorted] at perm
        exact perm.nil_eq.symm
      constructor
      · rw [Set.eq_empty_iff_forall_notMem]
        intro slot member
        have listed := (opened _).2 ⟨slot, member, rfl⟩
        rw [empty] at listed
        contradiction
      · rw [groupByBucket, found, Option.bind_some]
        simp only [head]
  | some firstText =>
      right
      cases last : ((grouped.map (·.1)).insertionSort Json.textLe).getLast? with
      | none =>
          rw [List.getLast?_eq_none_iff] at last
          rw [last] at head
          contradiction
      | some lastText =>
          obtain ⟨firstMem, firstLe⟩ := head_insertionSort head
          obtain ⟨lastMem, lastLe⟩ := last_insertionSort last
          obtain ⟨first, firstSlot, rfl⟩ := (opened _).1 firstMem
          obtain ⟨final, finalSlot, rfl⟩ := (opened _).1 lastMem
          have firstWritten := written_of_rowSlots valid firstSlot
          have finalWritten := written_of_rowSlots valid finalSlot
          have order : ∀ a ∈ rowSlots unit getDate rows, ∀ b ∈ rowSlots unit getDate rows,
              Json.textLe (isoText (slotStart unit a)) (isoText (slotStart unit b)) → a ≤ b := by
            intro a ha b hb le
            rw [textLe_isoText_iff (written_of_rowSlots valid ha) (written_of_rowSlots valid hb)] at le
            by_contra later
            have := slotStart_strictMono unit (not_le.1 later)
            omega
          have least : IsLeast (rowSlots unit getDate rows) first :=
            ⟨firstSlot, fun slot member ↦ order first firstSlot slot member
              (firstLe _ ((opened _).2 ⟨slot, member, rfl⟩))⟩
          have greatest : IsGreatest (rowSlots unit getDate rows) final :=
            ⟨finalSlot, fun slot member ↦ order slot member final finalSlot
              (lastLe _ ((opened _).2 ⟨slot, member, rfl⟩))⟩
          obtain ⟨count, counted⟩ := Int.eq_ofNat_of_zero_le
            (Int.sub_nonneg_of_le (least.2 finalSlot))
          have finalEq : final = first + count := by omega
          have bound := few first firstSlot final finalSlot
          refine ⟨first, count, least, finalEq ▸ greatest, ?_⟩
          have written : ∀ k < count + 1, IsWritten (slotStart unit (first + k)) := by
            intro k small
            exact firstWritten.between finalWritten (slotStart_mono unit (by omega))
              (slotStart_mono unit (by omega))
          have filled : fillGaps (isoText (slotStart unit first)) (isoText (slotStart unit final)) unit =
              (List.range (count + 1)).map fun k : ℕ ↦ isoText (slotStart unit (first + k)) := by
            rw [fillGaps, dateOfText_isoText firstWritten, dateOfText_isoText finalWritten]
            simp only
            rw [← fillFrom_eq unit (show count + 1 ≤ 1000 by omega)]
            congr 2
            push_cast
            omega
          rw [groupByBucket, found, Option.bind_some]
          simp only [head, last]
          rw [filled, labelled_eq none written]
          congr 1
          apply List.map_congr_left
          intro k small
          have rowsHere : (grouped.lookup (isoText (slotStart unit (first + k)))).getD [] =
              rows.filter fun row ↦ decide (rowSlot unit getDate row = some (first + k)) := by
            rw [rowsOf]
            apply List.filter_congr
            intro row member
            rw [decide_eq_decide]
            exact rowStart_eq_some_iff valid member (written k (List.mem_range.1 small))
          rw [slotBucket, rowsHere]
          congr 2
          by_cases zero : k = 0
          · simp [zero]
          · simp [zero, bne, beq_eq_decide]

end Rows

end ReputationKey.Shared
