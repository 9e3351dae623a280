import Mathlib.Data.List.Infix
import Mathlib.Tactic.ByContra

/-!
# Runs whose steps may act on stale reads

A store is written by parties that read it at one point of a run and write at another. A
`ReadSystem` gives each step the set of states the run has passed through, so that a step may
carry a snapshot of any of them; `Run` records the moves made, newest first. The laws below are
the induction rules the models of this development use: an invariant of one state, a relation
between every earlier state and the present one, and the move that made a property true or false.
-/

namespace ReputationKey.Base

universe u v

variable {σ : Type u} {ε : Type v}

/-- One move of a run: the state before it, what was done, and the state after it. -/
structure Move (σ : Type u) (ε : Type v) where
  pre : σ
  event : ε
  post : σ

/-- A transition system whose steps may use any state the run has already passed through. -/
structure ReadSystem (σ : Type u) (ε : Type v) where
  init : σ → Prop
  step : (σ → Prop) → σ → ε → σ → Prop

/-- The states a run with moves `h` that ended in `s` has passed through, `s` included. -/
def Seen (h : List (Move σ ε)) (s p : σ) : Prop :=
  p = s ∨ ∃ m ∈ h, p = m.pre

/-- The present state is one a party may have read. -/
theorem Seen.self (h : List (Move σ ε)) (s : σ) : Seen h s s := Or.inl rfl

/-- A state seen after one more move was seen before it or is the state that move left. -/
theorem seen_cons_iff (h : List (Move σ ε)) (m : Move σ ε) (s p : σ) :
    Seen (m :: h) s p ↔ p = s ∨ p = m.pre ∨ ∃ n ∈ h, p = n.pre := by
  simp [Seen]

/-- A run from an initial state: the moves made so far, newest first, and the present state. -/
inductive Run (M : ReadSystem σ ε) : List (Move σ ε) → σ → Prop
  | start {s : σ} : M.init s → Run M [] s
  | next {h : List (Move σ ε)} {s s' : σ} {e : ε} :
      Run M h s → M.step (Seen h s) s e s' → Run M (⟨s, e, s'⟩ :: h) s'

namespace Run

variable {M : ReadSystem σ ε} {h : List (Move σ ε)} {s : σ}

/-- A property of the initial states that every step keeps holds of every state reached. -/
theorem invariant {I : σ → Prop} (init : ∀ s, M.init s → I s)
    (step : ∀ h s e s', Run M h s → I s → M.step (Seen h s) s e s' → I s')
    (r : Run M h s) : I s := by
  induction r with
  | start hs => exact init _ hs
  | next r hstep ih => exact step _ _ _ _ r ih hstep

/-- The part of a run before one of its moves is a run, and the move is a step from its end. -/
theorem of_append {later : List (Move σ ε)} {m : Move σ ε} {earlier : List (Move σ ε)}
    (r : Run M (later ++ m :: earlier) s) :
    Run M earlier m.pre ∧ M.step (Seen earlier m.pre) m.pre m.event m.post ∧
      Run M (m :: earlier) m.post := by
  induction later generalizing s with
  | nil =>
      cases r with
      | next r hstep => exact ⟨r, hstep, .next r hstep⟩
  | cons n later ih =>
      cases r with
      | next r _ => exact ih r

/-- Every move of a run is a step from the state an earlier part of the run reached. -/
theorem of_mem (r : Run M h s) {m : Move σ ε} (hm : m ∈ h) :
    ∃ h', Run M h' m.pre ∧ M.step (Seen h' m.pre) m.pre m.event m.post := by
  obtain ⟨later, earlier, rfl⟩ := List.append_of_mem hm
  exact ⟨earlier, r.of_append.1, r.of_append.2.1⟩

/-- The state a move of a run left is one the run has passed through. -/
theorem seen_post (r : Run M h s) {m : Move σ ε} (hm : m ∈ h) : Seen h s m.post := by
  induction r with
  | start => cases hm
  | next r hstep ih =>
      rw [seen_cons_iff]
      rcases List.mem_cons.1 hm with rfl | hm
      · exact Or.inl rfl
      · exact Or.inr (ih hm)

/-- A reflexive, transitive relation that every step extends holds from every state seen. -/
theorem seen_related {R : σ → σ → Prop} (refl : ∀ s, R s s)
    (trans : ∀ p s s', R p s → R s s' → R p s')
    (step : ∀ h s e s', Run M h s → M.step (Seen h s) s e s' → R s s')
    (r : Run M h s) {p : σ} (seen : Seen h s p) : R p s := by
  induction r with
  | start hs =>
      rcases seen with rfl | ⟨m, hm, _⟩
      · exact refl _
      · cases hm
  | next r hstep ih =>
      rcases (seen_cons_iff _ _ _ _).1 seen with rfl | hp | hp
      · exact refl _
      · exact trans _ _ _ (ih (Or.inl hp)) (step _ _ _ _ r hstep)
      · exact trans _ _ _ (ih (Or.inr hp)) (step _ _ _ _ r hstep)

/-- A property that held after one move and does not hold now was broken by a later move. -/
theorem broken_since {P : σ → Prop} {later : List (Move σ ε)} {m : Move σ ε}
    {earlier : List (Move σ ε)} (r : Run M (later ++ m :: earlier) s)
    (held : P m.post) (now : ¬ P s) :
    ∃ l₁ n l₂, later = l₁ ++ n :: l₂ ∧ P n.pre ∧ ¬ P n.post := by
  induction later generalizing s with
  | nil =>
      cases r with
      | next _ _ => exact absurd held now
  | cons n later ih =>
      cases r with
      | @next _ s₀ _ e r hstep =>
          by_cases hs : P s₀
          · exact ⟨[], ⟨s₀, e, s⟩, later, rfl, hs, now⟩
          · obtain ⟨l₁, n', l₂, hl, hpre, hpost⟩ := ih r hs
            exact ⟨⟨s₀, e, s⟩ :: l₁, n', l₂, by rw [hl]; rfl, hpre, hpost⟩

/-- A property that held after one move and that every later move keeps holds now. -/
theorem kept_since {P : σ → Prop} {later : List (Move σ ε)} {m : Move σ ε}
    {earlier : List (Move σ ε)} (r : Run M (later ++ m :: earlier) s) (held : P m.post)
    (keeps : ∀ n ∈ later, ∀ h : List (Move σ ε),
      M.step (Seen h n.pre) n.pre n.event n.post → P n.pre → P n.post) :
    P s := by
  by_contra hnow
  obtain ⟨l₁, n, l₂, rfl, hpre, hpost⟩ := r.broken_since held hnow
  obtain ⟨h', -, hstep⟩ := r.of_mem (m := n) (by simp)
  exact hpost (keeps n (by simp) h' hstep hpre)

/-- A property that holds now and of no initial state was made true by one of the moves. -/
theorem made_true {P : σ → Prop} (init : ∀ s, M.init s → ¬ P s) (r : Run M h s) (now : P s) :
    ∃ later m earlier, h = later ++ m :: earlier ∧ ¬ P m.pre ∧ P m.post := by
  induction r with
  | start hs => exact absurd now (init _ hs)
  | @next h s s' e r hstep ih =>
      by_cases hp : P s
      · obtain ⟨later, m, earlier, hh, hpre, hpost⟩ := ih hp
        exact ⟨⟨s, e, s'⟩ :: later, m, earlier, by rw [hh]; rfl, hpre, hpost⟩
      · exact ⟨[], ⟨s, e, s'⟩, h, rfl, hp, now⟩

end Run

/-! ## The order of moves -/

/-- The move at a position of a run, counted from its start. -/
def MoveAt (h : List (Move σ ε)) (n : ℕ) (m : Move σ ε) : Prop := h.reverse[n]? = some m

theorem MoveAt.mem {h : List (Move σ ε)} {n : ℕ} {m : Move σ ε} (at_n : MoveAt h n m) : m ∈ h :=
  List.mem_reverse.1 (List.mem_of_getElem? at_n)

theorem MoveAt.unique {h : List (Move σ ε)} {n : ℕ} {m m' : Move σ ε} (at_n : MoveAt h n m)
    (at_n' : MoveAt h n m') : m = m' :=
  Option.some.inj (at_n.symm.trans at_n')

/-- A move splits its run into what came after it and what came before. -/
theorem MoveAt.split {h : List (Move σ ε)} {n : ℕ} {m : Move σ ε} (at_n : MoveAt h n m) :
    ∃ later earlier, h = later ++ m :: earlier ∧ earlier.length = n := by
  obtain ⟨hn, hm⟩ := List.getElem?_eq_some_iff.1 at_n
  refine ⟨(h.reverse.drop (n + 1)).reverse, (h.reverse.take n).reverse, ?_, ?_⟩
  · have hsplit : h.reverse = h.reverse.take n ++ m :: h.reverse.drop (n + 1) := by
      rw [← hm, List.cons_getElem_drop_succ, List.take_append_drop]
    conv_lhs => rw [← List.reverse_reverse h, hsplit]
    rw [List.reverse_append, List.reverse_cons, List.append_assoc]
    rfl
  · rw [List.length_reverse, List.length_take]
    omega

/-- The state that an earlier move left is one that a later move may have read. -/
theorem Run.seen_at {M : ReadSystem σ ε} {h : List (Move σ ε)} {s : σ} (r : Run M h s) {n k : ℕ}
    {m m' : Move σ ε} (at_n : MoveAt h n m) (at_k : MoveAt h k m') (before : n < k) :
    ∃ h', Run M h' m'.pre ∧ Seen h' m'.pre m.post := by
  obtain ⟨later, earlier, rfl, hlength⟩ := at_k.split
  obtain ⟨hrun, _, _⟩ := r.of_append
  refine ⟨earlier, hrun, hrun.seen_post ?_⟩
  rw [MoveAt, List.reverse_append, List.reverse_cons, List.append_assoc,
    List.getElem?_append_left (by simpa using hlength ▸ before)] at at_n
  exact List.mem_reverse.1 (List.mem_of_getElem? at_n)

end ReputationKey.Base
