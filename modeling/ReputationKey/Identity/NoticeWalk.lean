import Mathlib.Data.List.Perm.Subperm
import ReputationKey.Identity.MerchantAi

/-!
# The walk over the notice changes

The walk ends for every change table: each round remembers a key of another entry. What it answers
covers every material change between the two notices, and is every capability when the earlier
notice is not an ancestor of the later one.
-/

namespace ReputationKey.Identity

variable {changes : List MerchantAiNoticeChange} {previous : MerchantAiNoticeReference}

/-- A notice that the later one replaced, directly or through others. -/
inductive NoticeAncestor (changes : List MerchantAiNoticeChange) :
    MerchantAiNoticeReference → MerchantAiNoticeReference → Prop
  | self (notice : MerchantAiNoticeReference) : NoticeAncestor changes notice notice
  | replaced {previous replaced next : MerchantAiNoticeReference} {change : MerchantAiNoticeChange} :
      noticeChangeOf changes next = some change → change.replaces = some replaced →
      NoticeAncestor changes previous replaced → NoticeAncestor changes previous next

/-- An ancestor none of whose successors up to the later notice changed a capability materially. -/
inductive NoMaterialChange (changes : List MerchantAiNoticeChange)
    (capability : MerchantAiCapability) :
    MerchantAiNoticeReference → MerchantAiNoticeReference → Prop
  | self (notice : MerchantAiNoticeReference) : NoMaterialChange changes capability notice notice
  | replaced {previous replaced next : MerchantAiNoticeReference} {change : MerchantAiNoticeChange} :
      noticeChangeOf changes next = some change → change.replaces = some replaced →
      capability ∉ change.materiallyChanges →
      NoMaterialChange changes capability previous replaced →
      NoMaterialChange changes capability previous next

/-- Chains of notices without a material change compose. -/
theorem NoMaterialChange.trans {capability : MerchantAiCapability}
    {first second third : MerchantAiNoticeReference}
    (h : NoMaterialChange changes capability first second)
    (h' : NoMaterialChange changes capability second third) :
    NoMaterialChange changes capability first third := by
  induction h' with
  | self => exact h
  | replaced hentry hreplaces hnot _ ih => exact .replaced hentry hreplaces hnot ih

/-- Every capability is in the catalogue. -/
theorem mem_currentMerchantAiCapabilities (capability : MerchantAiCapability) :
    capability ∈ currentMerchantAiCapabilities := by
  cases capability <;> decide

/-- The entry found for a notice is one of the table, under the notice's key. -/
theorem noticeKey_mem_of_noticeChangeOf {notice : MerchantAiNoticeReference}
    {change : MerchantAiNoticeChange} (h : noticeChangeOf changes notice = some change) :
    noticeKey notice ∈ changes.map fun entry ↦ noticeKey entry.toMerchantAiNoticeReference := by
  unfold noticeChangeOf at h
  have hfound := List.find?_some h
  have hsame : change.toMerchantAiNoticeReference = notice := of_decide_eq_true hfound
  exact List.mem_map.2 ⟨change, List.mem_of_find?_eq_some h, by rw [hsame]⟩

/-- With as many rounds as there are entries left to remember, and one more, the walk ends. -/
theorem noticeWalk_isSome (rounds : Nat) (cursor : MerchantAiNoticeReference) (seen : List String)
    (affected : List MerchantAiCapability) (nodup : seen.Nodup)
    (known : seen ⊆ changes.map fun entry ↦ noticeKey entry.toMerchantAiNoticeReference)
    (enough : changes.length < seen.length + rounds) :
    (noticeWalk changes previous rounds cursor seen affected).isSome := by
  induction rounds generalizing cursor seen affected with
  | zero =>
      have hle := (List.Nodup.subperm nodup known).length_le
      rw [List.length_map] at hle
      omega
  | succ rounds ih =>
      unfold noticeWalk
      split
      · rfl
      · split
        · rfl
        · next hseen =>
          split
          · rfl
          · next change hentry =>
            split
            · rfl
            · refine ih _ _ _ (List.nodup_cons.2 ⟨hseen, nodup⟩) ?_ ?_
              · exact List.cons_subset.2 ⟨noticeKey_mem_of_noticeChangeOf hentry, known⟩
              · rw [List.length_cons]
                omega

/-- The walk between any two notices ends, for every change table. -/
theorem noticeWalk_ends (changes : List MerchantAiNoticeChange)
    (previous next : MerchantAiNoticeReference) :
    (noticeWalk changes previous (changes.length + 1) next [] []).isSome :=
  noticeWalk_isSome _ _ _ _ List.nodup_nil (List.nil_subset _) (by simp)

/-- A capability missing from the answer was not affected before, and no notice on the way changed it
materially. -/
theorem noMaterialChange_of_noticeWalk {capability : MerchantAiCapability} (rounds : Nat)
    {cursor : MerchantAiNoticeReference} {seen : List String}
    {affected answer : List MerchantAiCapability}
    (h : noticeWalk changes previous rounds cursor seen affected = some answer)
    (missing : capability ∉ answer) :
    capability ∉ affected ∧ NoMaterialChange changes capability previous cursor := by
  have hall : ∀ {answer}, some currentMerchantAiCapabilities = some answer →
      capability ∉ answer → False := by
    rintro _ ⟨⟩ hmissing
    exact hmissing (mem_currentMerchantAiCapabilities capability)
  induction rounds generalizing cursor seen affected with
  | zero => cases h
  | succ rounds ih =>
      unfold noticeWalk at h
      split at h
      · next hsame =>
        cases h
        rw [hsame]
        refine ⟨fun haffected ↦ missing ?_, .self _⟩
        exact List.mem_filter.2 ⟨mem_currentMerchantAiCapabilities capability,
          decide_eq_true haffected⟩
      · split at h
        · exact (hall h missing).elim
        · split at h
          · exact (hall h missing).elim
          · next change hentry =>
            split at h
            · exact (hall h missing).elim
            · next replaced hreplaces =>
              obtain ⟨hnot, hbefore⟩ := ih h
              rw [List.mem_append, not_or] at hnot
              exact ⟨hnot.1, .replaced hentry hreplaces hnot.2 hbefore⟩

/-- A capability the answer leaves out was not changed by any notice between the two. -/
theorem noMaterialChange_of_not_mem {capability : MerchantAiCapability}
    {next : MerchantAiNoticeReference}
    (missing : capability ∉ materiallyChangedMerchantAiCapabilities changes previous next) :
    NoMaterialChange changes capability previous next := by
  unfold materiallyChangedMerchantAiCapabilities at missing
  obtain ⟨answer, hanswer⟩ := Option.isSome_iff_exists.1 (noticeWalk_ends changes previous next)
  rw [hanswer, Option.getD_some] at missing
  exact (noMaterialChange_of_noticeWalk _ hanswer missing).2

/-- When the earlier notice is not an ancestor, the answer is every capability, in order. -/
theorem noticeWalk_of_not_ancestor (rounds : Nat) {cursor : MerchantAiNoticeReference}
    {seen : List String} {affected answer : List MerchantAiCapability}
    (h : noticeWalk changes previous rounds cursor seen affected = some answer)
    (stranger : ¬ NoticeAncestor changes previous cursor) :
    answer = currentMerchantAiCapabilities := by
  induction rounds generalizing cursor seen affected with
  | zero => cases h
  | succ rounds ih =>
      unfold noticeWalk at h
      split at h
      · next hsame =>
        rw [hsame] at stranger
        exact absurd (.self _) stranger
      · split at h
        · cases h
          rfl
        · split at h
          · cases h
            rfl
          · next change hentry =>
            split at h
            · cases h
              rfl
            · next replaced hreplaces =>
              exact ih h fun hancestor ↦ stranger (.replaced hentry hreplaces hancestor)

/-- A stranger invalidates every capability. -/
theorem materiallyChanged_of_not_ancestor {next : MerchantAiNoticeReference}
    (stranger : ¬ NoticeAncestor changes previous next) :
    materiallyChangedMerchantAiCapabilities changes previous next =
      currentMerchantAiCapabilities := by
  unfold materiallyChangedMerchantAiCapabilities
  obtain ⟨answer, hanswer⟩ := Option.isSome_iff_exists.1 (noticeWalk_ends changes previous next)
  rw [hanswer, Option.getD_some]
  exact noticeWalk_of_not_ancestor _ hanswer stranger

end ReputationKey.Identity
