import ReputationKey.Shared.ChartBucketSlots
import Mathlib.Data.List.Induction

/-!
# What a chart shows of its rows

The buckets of a chart hold every dated row once and in order, and the labels on its axis keep the
first bucket and the last.
-/

namespace ReputationKey.Shared

open Base Civil
open ReputationKey.Review (Text)

/-! ## The ticks of an axis -/

/-- One start comes before another. -/
def StartsBefore (start other : Text) : Prop := Json.textLe start other ∧ start ≠ other

/-- Of ascending texts a set keeps each once, in their order, with the ends. -/
theorem picked_spec {texts : List Text} (ascending : texts.Pairwise Json.textLe) :
    (picked texts).Pairwise StartsBefore ∧ (∀ text, text ∈ picked texts ↔ text ∈ texts) ∧
      (picked texts).length ≤ texts.length ∧ (picked texts).head? = texts.head? ∧
      (picked texts).getLast? = texts.getLast? := by
  induction texts using List.reverseRecOn with
  | nil => simp [picked]
  | append_singleton texts text ih =>
      obtain ⟨before, -, below⟩ := List.pairwise_append.1 ascending
      have below : ∀ other ∈ texts, Json.textLe other text := fun other member ↦
        below other member text List.mem_cons_self
      obtain ⟨strict, members, short, first, last⟩ := ih before
      have step : picked (texts ++ [text]) =
          if text ∈ picked texts then picked texts else picked texts ++ [text] := by
        rw [picked, List.foldl_append]
        exact if_congr List.contains_iff_mem rfl rfl
      rw [step]
      by_cases known : text ∈ picked texts
      · -- the text is the last one already
        have listed := (members text).1 known
        have ends : texts.getLast? = some text := by
          obtain ⟨final, found⟩ := Option.isSome_iff_exists.1
            (List.getLast?_isSome.2 (List.ne_nil_of_mem listed))
          obtain ⟨front, rfl⟩ := List.getLast?_eq_some_iff.1 found
          rw [found]
          rcases List.mem_append.1 listed with earlier | same
          · have le := (List.pairwise_append.1 before).2.2 text earlier final List.mem_cons_self
            rw [Json.textLe_antisymm le (below final (by simp))]
          · rw [List.mem_singleton.1 same]
        rw [if_pos known]
        refine ⟨strict, ?_, ?_, ?_, ?_⟩
        · intro other
          rw [members, List.mem_append, List.mem_singleton]
          constructor
          · exact Or.inl
          · rintro (h | rfl)
            · exact h
            · exact listed
        · rw [List.length_append]
          omega
        · rw [first, List.head?_append_of_ne_nil _ (List.ne_nil_of_mem listed)]
        · rw [last, ends, List.getLast?_concat]
      · rw [if_neg known]
        refine ⟨?_, ?_, ?_, ?_, ?_⟩
        · rw [List.pairwise_append]
          refine ⟨strict, List.pairwise_singleton .., ?_⟩
          intro other member new same
          rw [List.mem_singleton.1 same]
          refine ⟨below other ((members other).1 member), ?_⟩
          rintro rfl
          exact known member
        · intro other
          rw [List.mem_append, members, List.mem_append]
        · rw [List.length_append, List.length_append]
          omega
        · cases texts with
          | nil => rfl
          | cons head rest =>
              have filled : picked (head :: rest) ≠ [] :=
                List.ne_nil_of_mem ((members head).2 List.mem_cons_self)
              rw [List.head?_append_of_ne_nil _ filled, first]
              rfl
        · rw [List.getLast?_concat, List.getLast?_concat]

/-- The step between two ticks of a longer axis. -/
def tickStep (length max : ℕ) : ℚ := nearestDouble ((length - 1 : ℕ) / (max - 1 : ℕ))

theorem roundedPosition_zero (step : ℚ) : roundedPosition 0 step = 0 := by
  have zero : nearestDouble 0 = 0 := by simp [nearestDouble, nearestEven]
  rw [roundedPosition, Nat.cast_zero, zero_mul, zero]
  norm_num

theorem roundedPosition_mono {step : ℚ} (positive : 0 < step) {index other : ℕ} (h : index ≤ other) :
    roundedPosition index step ≤ roundedPosition other step := by
  rw [roundedPosition, roundedPosition]
  apply Int.floor_le_floor
  rcases Nat.eq_zero_or_pos index with rfl | some
  · have zero : nearestDouble 0 = 0 := by simp [nearestDouble, nearestEven]
    have nonneg : 0 ≤ nearestDouble (other * step) := nearestDouble_nonneg (by positivity)
    rw [Nat.cast_zero, zero_mul, zero]
    linarith
  · have cast : (0 : ℚ) < index := by exact_mod_cast some
    have product : (index : ℚ) * step ≤ other * step := by gcongr
    linarith [nearestDouble_mono (mul_pos cast positive) product]

/-- The last tick is on the last bucket: rounding twice moves it by less than half. -/
theorem roundedPosition_last {length max : ℕ} (two : 2 ≤ max) (longer : max < length)
    (sized : length < 2 ^ 32) : roundedPosition (max - 1) (tickStep length max) = (length - 1 : ℕ) := by
  obtain ⟨parts, rfl⟩ := Nat.exists_eq_add_of_le' (show 1 ≤ max by omega)
  obtain ⟨final, rfl⟩ := Nat.exists_eq_add_of_le' (show 1 ≤ length by omega)
  simp only [roundedPosition, tickStep, Nat.add_sub_cancel]
  have partsOne : (1 : ℚ) ≤ parts := by exact_mod_cast (show 1 ≤ parts by omega)
  have partsPos : (0 : ℚ) < parts := by linarith
  have finalMore : (parts : ℚ) + 1 ≤ final := by exact_mod_cast (show parts + 1 ≤ final by omega)
  have finalSized : (final : ℚ) ≤ 4294967295 := by exact_mod_cast (show final ≤ 4294967295 by omega)
  have quotient : (1 : ℚ) ≤ final / parts := by
    rw [one_le_div partsPos]
    linarith
  have first := abs_le.1 (abs_nearestDouble_sub_le quotient)
  -- the product of the parts and a step within that error
  have exact : (parts : ℚ) * (final / parts) = final := by field_simp
  have error : (parts : ℚ) * (final / parts / 2 ^ 53) = final / 2 ^ 53 := by field_simp
  have low := mul_le_mul_of_nonneg_left first.1 partsPos.le
  have high := mul_le_mul_of_nonneg_left first.2 partsPos.le
  rw [mul_sub, exact, mul_neg, error] at low
  rw [mul_sub, exact, error] at high
  have product : (1 : ℚ) ≤ parts * nearestDouble (final / parts) := by
    norm_num at low
    linarith
  have second := abs_le.1 (abs_nearestDouble_sub_le product)
  rw [Int.floor_eq_iff]
  norm_num at low high second ⊢
  constructor <;> linarith [second.1, second.2]

theorem mapM_of_forall {α β : Type} {f : α → Option β} {g : α → β} {items : List α}
    (h : ∀ a ∈ items, f a = some (g a)) : items.mapM f = some (items.map g) := by
  induction items with
  | nil => rfl
  | cons a items ih =>
      rw [List.mapM_cons, h a List.mem_cons_self, ih fun b member ↦ h b (List.mem_cons_of_mem _ member)]
      rfl

/-- Ascending starts at ascending positions ascend. -/
theorem le_of_positions {starts : List Text} (ascending : starts.Pairwise StartsBefore) {first second : ℕ}
    (h : first ≤ second) {start other : Text} (atFirst : starts[first]? = some start)
    (atSecond : starts[second]? = some other) : Json.textLe start other := by
  rcases h.lt_or_eq with less | rfl
  · obtain ⟨firstBound, rfl⟩ := List.getElem?_eq_some_iff.1 atFirst
    obtain ⟨secondBound, rfl⟩ := List.getElem?_eq_some_iff.1 atSecond
    exact (List.pairwise_iff_getElem.1 ascending _ _ firstBound secondBound less).1
  · rw [atFirst] at atSecond
    obtain rfl := Option.some.inj atSecond
    exact le_refl _

/-- The ticks of ascending buckets are at most so many, ascend, and keep both ends. An array holds
fewer than 2 ^ 32 buckets. -/
theorem axisTicks_spec {τ : Type} {buckets : List (Bucket τ)} {max : ℕ} (two : 2 ≤ max)
    (sized : buckets.length < 2 ^ 32)
    (ascending : (buckets.map (·.start)).Pairwise StartsBefore) :
    ∃ ticks, axisTicks buckets max = some ticks ∧ ticks.length ≤ max ∧ ticks.Pairwise StartsBefore ∧
      (∀ tick ∈ ticks, tick ∈ buckets.map (·.start)) ∧
      ticks.head? = (buckets.map (·.start)).head? ∧
      ticks.getLast? = (buckets.map (·.start)).getLast? := by
  by_cases short : buckets.length ≤ max
  · exact ⟨_, if_pos short, by rw [List.length_map]; exact short, ascending, fun _ ↦ id, rfl, rfl⟩
  have longer : max < buckets.length := not_le.1 short
  have positive : 0 < tickStep buckets.length max := by
    have quotient : (1 : ℚ) ≤ (buckets.length - 1 : ℕ) / (max - 1 : ℕ) := by
      rw [one_le_div (by exact_mod_cast (show 0 < max - 1 by omega))]
      exact_mod_cast (show max - 1 ≤ buckets.length - 1 by omega)
    have error := (abs_le.1 (abs_nearestDouble_sub_le quotient)).1
    rw [tickStep]
    norm_num at error
    linarith
  have last := roundedPosition_last two longer sized
  have lowest : ∀ index, 0 ≤ roundedPosition index (tickStep buckets.length max) := by
    intro index
    rw [← roundedPosition_zero (tickStep buckets.length max)]
    exact roundedPosition_mono positive (Nat.zero_le index)
  have within : ∀ index < max,
      (roundedPosition index (tickStep buckets.length max)).toNat < buckets.length := by
    intro index bound
    have highest := roundedPosition_mono positive (show index ≤ max - 1 by omega)
    rw [last] at highest
    omega
  let position (index : ℕ) := (roundedPosition index (tickStep buckets.length max)).toNat
  have mono : ∀ {index other : ℕ}, index ≤ other → position index ≤ position other := by
    intro index other le
    exact Int.toNat_le_toNat (roundedPosition_mono positive le)
  have starting : position 0 = 0 := by
    simp only [position, roundedPosition_zero]
    rfl
  have ending : position (max - 1) = buckets.length - 1 := by
    simp only [position, last]
    rfl
  let tick (index : ℕ) := ((buckets.map (·.start))[position index]?).getD []
  have found : ∀ index < max, (buckets.map (·.start))[position index]? = some (tick index) := by
    intro index bound
    have inside : position index < (buckets.map (·.start)).length := by
      rw [List.length_map]
      exact within index bound
    simp only [tick, List.getElem?_eq_getElem inside, Option.getD_some]
  have chosen : (List.range max).mapM (fun index ↦ (buckets[position index]?).map (·.start)) =
      some ((List.range max).map tick) := by
    apply mapM_of_forall
    intro index member
    rw [← found index (List.mem_range.1 member), List.getElem?_map]
  have ticksAscend : ((List.range max).map tick).Pairwise Json.textLe := by
    rw [List.pairwise_map]
    apply List.pairwise_lt_range.imp_of_mem
    intro index other member memberToo less
    exact le_of_positions ascending (mono less.le) (found index (List.mem_range.1 member))
      (found other (List.mem_range.1 memberToo))
  obtain ⟨strict, members, fewer, first, final⟩ := picked_spec ticksAscend
  refine ⟨picked ((List.range max).map tick), ?_, ?_, strict, ?_, ?_, ?_⟩
  · rw [axisTicks, if_neg short]
    exact congrArg (Option.map picked) chosen
  · rw [List.length_map, List.length_range] at fewer
    exact fewer
  · intro text member
    obtain ⟨index, bound, rfl⟩ := List.mem_map.1 ((members text).1 member)
    exact List.mem_of_getElem? (found index (List.mem_range.1 bound))
  · rw [first, List.head?_map, List.head?_range, if_neg (by omega), Option.map_some,
      ← found 0 (by omega), starting, List.head?_eq_getElem?]
  · rw [final, List.getLast?_map, List.getLast?_range, if_neg (by omega), Option.map_some,
      ← found (max - 1) (by omega), ending, List.getLast?_eq_getElem?, List.length_map]

/-! ## Results -/

section Rows

variable {τ : Type} (formatters : LabelFormatters) (unit : BucketUnit) (getDate : τ → Option Text)

/-- Whether the day of a row is from one day on and before another. -/
def isDatedWithin (opening next : ℤ) (row : τ) : Bool :=
  (localDay getDate row).any fun day ↦ decide (opening ≤ day) && decide (day < next)

/-- Buckets that lose none of their rows. -/
structure LosesNothing (rows : List τ) (buckets : List (Bucket τ)) : Prop where
  /-- The buckets are consecutive ones of the calendar, and each holds the rows that are dated from
  its start on and before the next one's, in their order. -/
  consecutive : ∃ first : ℤ, ∀ (k : ℕ) (bucket : Bucket τ), buckets[k]? = some bucket →
    bucket.start = isoText (slotStart unit (first + k)) ∧
      bucket.rows = rows.filter
        (isDatedWithin getDate (slotStart unit (first + k)) (slotStart unit (first + k + 1)))
  ascending : (buckets.map (·.start)).Pairwise StartsBefore
  firstHolds : ∀ bucket ∈ buckets.head?, bucket.rows ≠ []
  lastHolds : ∀ bucket ∈ buckets.getLast?, bucket.rows ≠ []
  heldOnce : ∀ row ∈ rows, (localDay getDate row).isSome = true →
    ∃! k : ℕ, ∃ bucket : Bucket τ, buckets[k]? = some bucket ∧ row ∈ bucket.rows
  /-- The label has the year exactly when no earlier bucket is of the year. -/
  years : ∀ (k : ℕ) (bucket : Bucket τ), buckets[k]? = some bucket → ∃ day, bucket.start = isoText day ∧
    bucket.label = bucketLabel formatters unit
      ((buckets.take k).all fun earlier ↦ earlier.start.take 4 != bucket.start.take 4) day

/-- Buckets of the same starts and labels whose rows differ in their order only. -/
def SameBuckets (buckets others : List (Bucket τ)) : Prop :=
  List.Forall₂ (fun bucket other ↦ bucket.start = other.start ∧ bucket.label = other.label ∧
    bucket.rows.Perm other.rows) buckets others

variable {formatters unit getDate} {rows : List τ}

theorem isDatedWithin_eq {slot : ℤ} (row : τ) :
    isDatedWithin getDate (slotStart unit slot) (slotStart unit (slot + 1)) row =
      decide (rowSlot unit getDate row = some slot) := by
  rw [isDatedWithin, rowSlot]
  cases localDay getDate row with
  | none => rfl
  | some day =>
      simp only [Option.any_some, Option.map_some, Option.some.injEq, slotOf_eq_iff, Bool.decide_and]

/-- The buckets from a first one on. -/
def slotBuckets (formatters : LabelFormatters) (unit : BucketUnit) (getDate : τ → Option Text)
    (rows : List τ) (first : ℤ) (count : ℕ) : List (Bucket τ) :=
  (List.range count).map (slotBucket formatters unit getDate rows first)

theorem getElem?_slotBuckets {first : ℤ} {count k : ℕ} {bucket : Bucket τ} :
    (slotBuckets formatters unit getDate rows first count)[k]? = some bucket ↔
      k < count ∧ slotBucket formatters unit getDate rows first k = bucket := by
  rw [slotBuckets, List.getElem?_map]
  by_cases bound : k < count
  · rw [List.getElem?_range bound, Option.map_some, Option.some.injEq]
    exact ⟨fun same ↦ ⟨bound, same⟩, And.right⟩
  · rw [List.getElem?_eq_none (by rw [List.length_range]; omega)]
    simp [bound]

/-- Two starts are of one year when their first four units are the same. -/
theorem take_isoText_eq_iff {a b : ℤ} (ha : IsWritten a) (hb : IsWritten b) :
    (isoText a).take 4 = (isoText b).take 4 ↔ yearOfDay a = yearOfDay b := by
  have first : (isoText a).take 4 = fourDigits (yearOfDay a) := by rw [isoText_eq ha]; rfl
  have second : (isoText b).take 4 = fourDigits (yearOfDay b) := by rw [isoText_eq hb]; rfl
  rw [first, second]
  constructor
  · intro h
    have read := numberOf_fourDigits ha.1 ha.2
    rw [h, numberOf_fourDigits hb.1 hb.2] at read
    exact (Option.some.inj read).symm
  · intro h
    rw [h]

/-- A year begins with a bucket when the one before is of another year. -/
theorem firstOfYear_iff {first : ℤ} {count k : ℕ} (bound : k < count)
    (written : ∀ k < count, IsWritten (slotStart unit (first + k))) :
    (k = 0 ∨ yearText unit (first + k) ≠ yearText unit (first + k - 1)) ↔
      ∀ earlier ∈ (slotBuckets formatters unit getDate rows first count).take k,
        earlier.start.take 4 ≠ (isoText (slotStart unit (first + k))).take 4 := by
  have listed : ∀ earlier, earlier ∈ (slotBuckets formatters unit getDate rows first count).take k ↔
      ∃ j < k, slotBucket formatters unit getDate rows first j = earlier := by
    intro earlier
    rw [slotBuckets, ← List.map_take, List.take_range, Nat.min_eq_left bound.le, List.mem_map]
    simp only [List.mem_range]
  constructor
  · rintro starts earlier member same
    obtain ⟨j, before, rfl⟩ := (listed earlier).1 member
    rcases starts with rfl | changed
    · exact absurd before (Nat.not_lt_zero j)
    · apply changed
      have previous : first + (k : ℤ) - 1 = first + ((k - 1 : ℕ) : ℤ) := by omega
      have years := (take_isoText_eq_iff (written j (by omega)) (written k bound)).1 same
      have low := yearOfDay_mono (slotStart_mono unit (show first + (j : ℤ) ≤ first + ((k - 1 : ℕ) : ℤ) by omega))
      have high := yearOfDay_mono (slotStart_mono unit (show first + ((k - 1 : ℕ) : ℤ) ≤ first + (k : ℤ) by omega))
      rw [previous, yearText, yearText, take_isoText_eq_iff (written k bound) (written (k - 1) (by omega))]
      omega
  · intro apart
    by_cases zero : k = 0
    · exact Or.inl zero
    · right
      have previous : first + (k : ℤ) - 1 = first + ((k - 1 : ℕ) : ℤ) := by omega
      have other := apart _ ((listed _).2 ⟨k - 1, by omega, rfl⟩)
      rw [previous]
      exact fun same ↦ other same.symm

/-- The buckets from the first that holds a row to the last lose nothing. -/
theorem losesNothing_slotBuckets {first : ℤ} {count : ℕ}
    (least : IsLeast (rowSlots unit getDate rows) first)
    (greatest : IsGreatest (rowSlots unit getDate rows) (first + count))
    (written : ∀ k < count + 1, IsWritten (slotStart unit (first + k))) :
    LosesNothing formatters unit getDate rows
      (slotBuckets formatters unit getDate rows first (count + 1)) where
  consecutive := by
    refine ⟨first, ?_⟩
    intro k bucket found
    obtain ⟨-, rfl⟩ := getElem?_slotBuckets.1 found
    refine ⟨rfl, ?_⟩
    apply List.filter_congr
    intro row _
    exact (isDatedWithin_eq row).symm
  ascending := by
    rw [slotBuckets, List.map_map, List.pairwise_map]
    apply List.pairwise_lt_range.imp_of_mem
    intro j k member memberToo less
    have days := slotStart_strictMono unit (show first + (j : ℤ) < first + (k : ℤ) by omega)
    have writtenFirst := written j (List.mem_range.1 member)
    have writtenSecond := written k (List.mem_range.1 memberToo)
    refine ⟨(textLe_isoText_iff writtenFirst writtenSecond).2 days.le, ?_⟩
    intro same
    exact days.ne (isoText_injective writtenFirst writtenSecond same)
  firstHolds := by
    intro bucket head
    rw [List.head?_eq_getElem?, Option.mem_def, getElem?_slotBuckets] at head
    obtain ⟨-, rfl⟩ := head
    obtain ⟨row, member, slot⟩ := least.1
    apply List.ne_nil_of_mem (a := row)
    rw [slotBucket, List.mem_filter]
    exact ⟨member, by simpa using slot⟩
  lastHolds := by
    intro bucket last
    rw [List.getLast?_eq_getElem?, Option.mem_def, getElem?_slotBuckets] at last
    obtain ⟨-, rfl⟩ := last
    obtain ⟨row, member, slot⟩ := greatest.1
    apply List.ne_nil_of_mem (a := row)
    rw [slotBucket, List.mem_filter]
    exact ⟨member, by simpa [slotBuckets] using slot⟩
  heldOnce := by
    intro row member dated
    obtain ⟨day, read⟩ := Option.isSome_iff_exists.1 dated
    have slot : rowSlot unit getDate row = some (slotOf unit day) := by rw [rowSlot, read]; rfl
    have low := least.2 ⟨row, member, slot⟩
    have high := greatest.2 ⟨row, member, slot⟩
    have position : first + (((slotOf unit day - first).toNat : ℕ) : ℤ) = slotOf unit day := by omega
    refine ⟨(slotOf unit day - first).toNat, ⟨_, getElem?_slotBuckets.2 ⟨by omega, rfl⟩, ?_⟩, ?_⟩
    · rw [slotBucket, List.mem_filter, position]
      exact ⟨member, by simpa using slot⟩
    · rintro k ⟨bucket, found, held⟩
      obtain ⟨-, rfl⟩ := getElem?_slotBuckets.1 found
      have same := of_decide_eq_true (List.mem_filter.1 held).2
      rw [slot, Option.some.injEq] at same
      omega
  years := by
    intro k bucket found
    obtain ⟨bound, rfl⟩ := getElem?_slotBuckets.1 found
    refine ⟨slotStart unit (first + k), rfl, ?_⟩
    have flag := @firstOfYear_iff τ formatters unit getDate rows first (count + 1) k bound written
    have shown : decide (k = 0 ∨ yearText unit (first + k) ≠ yearText unit (first + k - 1)) =
        ((slotBuckets formatters unit getDate rows first (count + 1)).take k).all fun earlier ↦
          earlier.start.take 4 != (isoText (slotStart unit (first + k))).take 4 := by
      rw [Bool.eq_iff_iff, decide_eq_true_eq, flag, List.all_eq_true]
      simp only [bne_iff_ne]
    simp only [slotBucket, shown]

/-- The same rows in another order are in the same buckets. -/
theorem rowSlots_perm {others : List τ} (perm : rows.Perm others) :
    rowSlots unit getDate others = rowSlots unit getDate rows := by
  ext slot
  constructor
  · rintro ⟨row, member, found⟩
    exact ⟨row, perm.mem_iff.2 member, found⟩
  · rintro ⟨row, member, found⟩
    exact ⟨row, perm.mem_iff.1 member, found⟩

theorem sameBuckets_slotBuckets {others : List τ} (perm : rows.Perm others) (first : ℤ) (count : ℕ) :
    SameBuckets (slotBuckets formatters unit getDate rows first count)
      (slotBuckets formatters unit getDate others first count) := by
  rw [SameBuckets, slotBuckets, slotBuckets, List.forall₂_map_left_iff, List.forall₂_map_right_iff,
    List.forall₂_same]
  intro k _
  exact ⟨rfl, rfl, perm.filter _⟩

/-- Of rows whose local dates are absent or valid, and whose first and last bucket are fewer than a
thousand apart, the buckets lose nothing, and another order of the rows changes only their order
within the buckets. -/
theorem groupByBucket_losesNothing (formatters : LabelFormatters)
    (valid : HasLocalDates unit getDate rows)
    (few : ∀ earliest ∈ rows, ∀ latest ∈ rows, ∀ first ∈ localDay getDate earliest,
      ∀ last ∈ localDay getDate latest, slotOf unit last - slotOf unit first < 1000) :
    ∃ buckets, groupByBucket formatters rows unit getDate = some buckets ∧
      LosesNothing formatters unit getDate rows buckets ∧
      ∀ others, rows.Perm others → ∃ otherBuckets,
        groupByBucket formatters others unit getDate = some otherBuckets ∧
          SameBuckets buckets otherBuckets := by
  have fewSlots : ∀ a ∈ rowSlots unit getDate rows, ∀ b ∈ rowSlots unit getDate rows, b - a < 1000 := by
    rintro a ⟨earliest, member, found⟩ b ⟨latest, memberToo, foundToo⟩
    obtain ⟨first, firstDay, rfl⟩ := Option.map_eq_some_iff.1 found
    obtain ⟨last, lastDay, rfl⟩ := Option.map_eq_some_iff.1 foundToo
    exact few earliest member latest memberToo first firstDay last lastDay
  have reordered : ∀ others, rows.Perm others → HasLocalDates unit getDate others := by
    intro others perm row member
    exact valid row (perm.mem_iff.2 member)
  rcases groupByBucket_eq valid fewSlots with ⟨empty, none⟩ | ⟨first, count, least, greatest, found⟩
  · refine ⟨[], none, ?_, ?_⟩
    · refine ⟨⟨0, by simp⟩, by simp, by simp, by simp, ?_, by simp⟩
      intro row member dated
      obtain ⟨day, read⟩ := Option.isSome_iff_exists.1 dated
      have slot : slotOf unit day ∈ rowSlots unit getDate rows := ⟨row, member, by rw [rowSlot, read]; rfl⟩
      rw [empty] at slot
      contradiction
    · intro others perm
      have same := @rowSlots_perm τ unit getDate rows others perm
      rcases groupByBucket_eq (reordered others perm) (same.symm ▸ fewSlots) with ⟨-, none⟩ | ⟨first, -, least, -⟩
      · exact ⟨[], none, List.Forall₂.nil⟩
      · rw [same, empty] at least
        exact absurd least.1 (Set.notMem_empty first)
  · have written : ∀ k < count + 1, IsWritten (slotStart unit (first + k)) := by
      intro k small
      exact (written_of_rowSlots valid least.1).between (written_of_rowSlots valid greatest.1)
        (slotStart_mono unit (by omega)) (slotStart_mono unit (by omega))
    refine ⟨_, found, losesNothing_slotBuckets least greatest written, ?_⟩
    intro others perm
    have same := @rowSlots_perm τ unit getDate rows others perm
    rcases groupByBucket_eq (reordered others perm) (same.symm ▸ fewSlots) with
      ⟨empty, -⟩ | ⟨otherFirst, otherCount, otherLeast, otherGreatest, otherFound⟩
    · rw [same] at empty
      rw [empty] at least
      exact absurd least.1 (Set.notMem_empty first)
    · rw [same] at otherLeast otherGreatest
      obtain rfl := least.unique otherLeast
      obtain rfl : count = otherCount := by
        have ends := greatest.unique otherGreatest
        omega
      exact ⟨_, otherFound, sameBuckets_slotBuckets perm first (count + 1)⟩

end Rows

/-- The buckets of rows with valid local dates lose nothing, and the ticks of an axis of ascending
buckets, at most so many, ascend and keep the first bucket and the last. -/
theorem chart_buckets_lose_nothing {τ : Type} (formatters : LabelFormatters) (unit : BucketUnit)
    (getDate : τ → Option Text) :
    (∀ rows : List τ, HasLocalDates unit getDate rows →
      (∀ earliest ∈ rows, ∀ latest ∈ rows, ∀ first ∈ localDay getDate earliest,
        ∀ last ∈ localDay getDate latest, slotOf unit last - slotOf unit first < 1000) →
      ∃ buckets, groupByBucket formatters rows unit getDate = some buckets ∧
        LosesNothing formatters unit getDate rows buckets ∧
        ∀ others, rows.Perm others → ∃ otherBuckets,
          groupByBucket formatters others unit getDate = some otherBuckets ∧
            SameBuckets buckets otherBuckets) ∧
    ∀ (buckets : List (Bucket τ)) (max : ℕ), 2 ≤ max → buckets.length < 2 ^ 32 →
      (buckets.map (·.start)).Pairwise StartsBefore →
        ∃ ticks, axisTicks buckets max = some ticks ∧ ticks.length ≤ max ∧
          ticks.Pairwise StartsBefore ∧ (∀ tick ∈ ticks, tick ∈ buckets.map (·.start)) ∧
          ticks.head? = (buckets.map (·.start)).head? ∧
          ticks.getLast? = (buckets.map (·.start)).getLast? :=
  ⟨fun _ ↦ groupByBucket_losesNothing formatters, fun _ _ ↦ axisTicks_spec⟩

/-- Two days of one week and one of the next. -/
theorem chart_buckets_lose_nothing_weeks :
    let formatters : LabelFormatters := ⟨fun _ day ↦ isoText day, fun day ↦ (isoText day).take 4⟩
    ∃ buckets, groupByBucket formatters [20003, 19997, 20000] .week (fun day ↦ some (isoText day)) =
        some buckets ∧
      LosesNothing formatters .week (fun day ↦ some (isoText day)) [20003, 19997, 20000] buckets := by
  intro formatters
  have written : ∀ day ∈ [(20003 : ℤ), 19997, 20000], IsWritten day ∧
      IsWritten (slotStart .week (slotOf .week day)) := by decide +kernel
  obtain ⟨buckets, found, kept, -⟩ := (chart_buckets_lose_nothing formatters .week
    (fun day : ℤ ↦ some (isoText day))).1 [20003, 19997, 20000]
    (by
      intro day member text date
      exact Or.inr ⟨day, (Option.some.inj date).symm, written day member⟩)
    (by
      intro earliest member latest memberToo first firstDay last lastDay
      have readFirst : localDay (fun day : ℤ ↦ some (isoText day)) earliest = some earliest :=
        dateOfText_isoText (written earliest member).1
      have readLast : localDay (fun day : ℤ ↦ some (isoText day)) latest = some latest :=
        dateOfText_isoText (written latest memberToo).1
      rw [readFirst] at firstDay
      rw [readLast] at lastDay
      obtain rfl := Option.some.inj firstDay
      obtain rfl := Option.some.inj lastDay
      simp only [List.mem_cons, List.not_mem_nil, or_false] at member memberToo
      simp only [slotOf]
      omega)
  exact ⟨buckets, found, kept⟩

/-- Buckets that do not ascend leave ticks that do not. -/
theorem descending_ticks :
    let late : Bucket ℕ := ⟨isoText 20000, [], []⟩
    let early : Bucket ℕ := ⟨isoText 19000, [], []⟩
    axisTicks [late, early] 8 = some [late.start, early.start] ∧
      ¬ [late.start, early.start].Pairwise StartsBefore := by
  intro late early
  refine ⟨rfl, ?_⟩
  intro ascending
  have before := List.rel_of_pairwise_cons ascending List.mem_cons_self
  have days := (textLe_isoText_iff (by decide) (by decide)).1 before.1
  omega

end ReputationKey.Shared
