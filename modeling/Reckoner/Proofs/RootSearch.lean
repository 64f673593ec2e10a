import Mathlib.Tactic.Linarith
import Mathlib.Tactic.NormNum
import Reckoner.Proofs.Exact
import Reckoner.Finance.RootSearch

/-!
# Where searches end

A search that answers has met a value near zero or has come down to the spacing of numbers, by a
Newton step or by halving a bracket; this needs no law of the numbers. In exact arithmetic bisection
always answers once the values at two candidates differ in sign: the width of a bracket halves with
every step, and in the end it is below the spacing.
-/

namespace Reckoner

namespace Scalar

variable {α : Type} [Scalar α]

theorem sameSign_comm (a b : α) : sameSign a b = sameSign b a := Bool.beq_comm

theorem sameSign_congr {a b : α} (h : sameSign a b = true) (c : α) :
    sameSign a c = sameSign b c := by
  have hsign : isNegative a = isNegative b := eq_of_beq h
  unfold sameSign
  rw [hsign]

end Scalar

namespace RootSearch

open Scalar

section

variable {α : Type} [Scalar α] {f slope : α → Option α} {tolerance : α}

/-- The value there is zero, or within the tolerance of it. -/
def IsNear (f : α → Option α) (tolerance x : α) : Prop :=
  ∃ y, f x = some y ∧ ((y == 0) = true ∨ abs y < tolerance)

/-- The Newton step that leads there is no longer than the spacing of numbers. -/
def IsStalled (f slope : α → Option α) (x : α) : Prop :=
  ∃ before y dy, f before = some y ∧ slope before = some dy ∧ x = before - y / dy ∧
    abs (x - before) ≤ spacing * greater (abs before) 1

/-- It is the middle of a bracket no wider than the spacing of numbers. -/
def IsHalved (f : α → Option α) (x : α) : Prop :=
  ∃ lo hi flo fhi, f lo = some flo ∧ f hi = some fhi ∧ sameSign flo fhi = false ∧
    x = 0.5 * (lo + hi) ∧ abs (hi - lo) ≤ spacing * greater (abs x) 1

/-- It is the middle of such a bracket, at whose ends `P` holds. -/
def IsHalvedWithin (P : α → Prop) (f : α → Option α) (x : α) : Prop :=
  ∃ lo hi flo fhi, P lo ∧ P hi ∧ f lo = some flo ∧ f hi = some fhi ∧ sameSign flo fhi = false ∧
    x = 0.5 * (lo + hi) ∧ abs (hi - lo) ≤ spacing * greater (abs x) 1

theorem IsHalvedWithin.isHalved {P : α → Prop} {x : α} (h : IsHalvedWithin P f x) :
    IsHalved f x := by
  obtain ⟨lo, hi, flo, fhi, -, -, hbracket⟩ := h
  exact ⟨lo, hi, flo, fhi, hbracket⟩

/-- All that one step of Newton's method can do when the search answers. -/
theorem newton_succ_cases {steps : Nat} {x r : α}
    (h : newton f slope tolerance (steps + 1) x = some r) :
    ∃ y, f x = some y ∧ (abs y < tolerance ∧ r = x ∨
      ∃ dy, slope x = some dy ∧ isFinite (x - y / dy) = true ∧
        (abs (x - y / dy - x) ≤ spacing * greater (abs x) 1 ∧ r = x - y / dy ∨
          newton f slope tolerance steps (x - y / dy) = some r)) := by
  unfold newton at h
  cases hf : f x with
  | none => simp [hf] at h
  | some y =>
    refine ⟨y, rfl, ?_⟩
    simp only [hf] at h
    by_cases hnear : abs y < tolerance
    · rw [if_pos hnear] at h
      exact .inl ⟨hnear, (Option.some_inj.mp h).symm⟩
    · rw [if_neg hnear] at h
      right
      cases hslope : slope x with
      | none => simp [hslope] at h
      | some dy =>
        refine ⟨dy, rfl, ?_⟩
        simp only [hslope, finite?] at h
        split at h
        · cases h
        · split at h
          · cases h
          · rename_i next hnext
            obtain ⟨hfinite, rfl⟩ := Option.ite_some_none_eq_some.mp hnext
            refine ⟨hfinite, ?_⟩
            split at h
            · rename_i hstall
              exact .inl ⟨hstall, (Option.some_inj.mp h).symm⟩
            · exact .inr h

theorem newton_ends {steps : Nat} {x r : α} (h : newton f slope tolerance steps x = some r) :
    IsNear f tolerance r ∨ IsStalled f slope r := by
  induction steps generalizing x with
  | zero => cases h
  | succ steps ih =>
    obtain ⟨y, hy, ⟨hnear, rfl⟩ | ⟨dy, hdy, -, ⟨hstall, rfl⟩ | hrest⟩⟩ := newton_succ_cases h
    · exact .inl ⟨y, hy, .inr hnear⟩
    · exact .inr ⟨x, y, dy, hy, hdy, rfl, hstall⟩
    · exact ih hrest

/-- Newton's method ends at a finite point, if the function has values at finite points only. -/
theorem isFinite_of_newton (hf : ∀ x y, f x = some y → isFinite x = true) {steps : Nat} {x r : α}
    (h : newton f slope tolerance steps x = some r) : isFinite r = true := by
  induction steps generalizing x with
  | zero => cases h
  | succ steps ih =>
    obtain ⟨y, hy, ⟨-, rfl⟩ | ⟨dy, -, hfinite, ⟨-, rfl⟩ | hrest⟩⟩ := newton_succ_cases h
    · exact hf r y hy
    · exact hfinite
    · exact ih hrest

/-- Bisection ends near a zero or in the middle of a narrow bracket. Whatever holds at the ends of the
first bracket holds there and at the ends of the last, if it passes to every middle that has a value. -/
theorem bisectFrom_ends {P : α → Prop}
    (hmiddle : ∀ lo hi y, P lo → P hi → f (0.5 * (lo + hi)) = some y → P (0.5 * (lo + hi)))
    {steps : Nat} {lo flo hi fhi r : α} (hlo : f lo = some flo) (hhi : f hi = some fhi)
    (hsign : sameSign flo fhi = false) (hPlo : P lo) (hPhi : P hi)
    (h : bisectFrom f tolerance steps lo flo hi = some r) :
    P r ∧ (IsNear f tolerance r ∨ IsHalvedWithin P f r) := by
  -- Over the steps; what carries it is that the ends keep opposite signs.
  induction steps generalizing lo flo hi fhi with
  | zero => cases h
  | succ steps ih =>
    unfold bisectFrom at h
    cases hmid : f (0.5 * (lo + hi)) with
    | none => simp [hmid] at h
    | some fmid =>
      have hPmid := hmiddle lo hi fmid hPlo hPhi hmid
      simp only [hmid] at h
      split at h
      · rename_i hends
        cases h
        refine ⟨hPmid, ?_⟩
        rcases Bool.or_eq_true_iff.mp hends with hnear | hwidth
        · exact .inl ⟨fmid, hmid, .inr (of_decide_eq_true hnear)⟩
        · exact .inr
            ⟨lo, hi, flo, fhi, hPlo, hPhi, hlo, hhi, hsign, rfl, of_decide_eq_true hwidth⟩
      · split at h
        · rename_i hsame
          -- The middle takes the place of the end whose sign it has.
          exact ih hmid hhi ((sameSign_congr hsame fhi).trans hsign) hPmid hPhi h
        · rename_i hother
          rw [Bool.not_eq_true, sameSign_comm] at hother
          exact ih hlo hmid hother hPlo hPmid h

theorem bisect_ends_within {P : α → Prop}
    (hmiddle : ∀ lo hi y, P lo → P hi → f (0.5 * (lo + hi)) = some y → P (0.5 * (lo + hi)))
    {steps : Nat} {lo hi r : α} (hPlo : P lo) (hPhi : P hi)
    (h : bisect f lo hi tolerance steps = some r) :
    P r ∧ (IsNear f tolerance r ∨ IsHalvedWithin P f r) := by
  unfold bisect at h
  split at h
  · rename_i flo fhi hlo hhi
    split at h
    · rename_i hzero
      cases h
      exact ⟨hPlo, .inl ⟨flo, hlo, .inl hzero⟩⟩
    · split at h
      · rename_i hzero
        cases h
        exact ⟨hPhi, .inl ⟨fhi, hhi, .inl hzero⟩⟩
      · split at h
        · cases h
        · rename_i hsign
          exact bisectFrom_ends hmiddle hlo hhi (Bool.not_eq_true _ ▸ hsign) hPlo hPhi h
  · cases h

theorem bisect_ends {steps : Nat} {lo hi r : α} (h : bisect f lo hi tolerance steps = some r) :
    IsNear f tolerance r ∨ IsHalved f r := by
  have hends := bisect_ends_within (P := fun _ => True) (fun _ _ _ _ _ _ => trivial) trivial trivial h
  exact hends.2.imp_right IsHalvedWithin.isHalved

theorem firstChange_eq_some {points : List (α × α)} {a b : α}
    (h : firstChange points = some (a, b)) :
    ∃ fa fb, (a, fa) ∈ points ∧ (b, fb) ∈ points ∧
      (fa == 0 || fb == 0 || !sameSign fa fb) = true := by
  induction points with
  | nil => cases h
  | cons p rest ih =>
    cases rest with
    | nil => cases h
    | cons q rest =>
      unfold firstChange at h
      split at h
      · rename_i hchange
        cases h
        exact ⟨p.2, q.2, List.mem_cons_self, List.mem_cons_of_mem _ List.mem_cons_self, hchange⟩
      · obtain ⟨fa, fb, ha, hb, hchange⟩ := ih h
        exact ⟨fa, fb, List.mem_cons_of_mem _ ha, List.mem_cons_of_mem _ hb, hchange⟩

/-- The ends of the bracket found are candidates that have values. -/
theorem bracket?_eq_some {candidates : List α} {lo hi : α}
    (h : bracket? f candidates = some (lo, hi)) :
    ∃ flo fhi, lo ∈ candidates ∧ f lo = some flo ∧ hi ∈ candidates ∧ f hi = some fhi := by
  obtain ⟨flo, fhi, hlo, hhi, -⟩ := firstChange_eq_some h
  have hpoint {x y : α} (hxy : (x, y) ∈ candidates.filterMap fun x => (f x).map fun fx => (x, fx)) :
      x ∈ candidates ∧ f x = some y := by
    obtain ⟨c, hc, hvalue⟩ := List.mem_filterMap.mp hxy
    obtain ⟨fc, hfc, hpair⟩ := Option.map_eq_some_iff.mp hvalue
    cases hpair
    exact ⟨hc, hfc⟩
  exact ⟨flo, fhi, (hpoint hlo).1, (hpoint hlo).2, (hpoint hhi).1, (hpoint hhi).2⟩

theorem firstChange_cons_eq_none_iff {p q : α × α} {rest : List (α × α)} :
    firstChange (p :: q :: rest) = none ↔
      (p.2 == 0) = false ∧ (q.2 == 0) = false ∧ sameSign p.2 q.2 = true ∧
        firstChange (q :: rest) = none := by
  rw [firstChange]
  cases p.2 == 0 <;> cases q.2 == 0 <;> cases sameSign p.2 q.2 <;> simp

/-- No bracket is found only when all values are of one sign, away from zero. -/
theorem firstChange_eq_none {p q : α × α} {rest : List (α × α)}
    (h : firstChange (p :: q :: rest) = none) :
    ∀ r ∈ p :: q :: rest, (r.2 == 0) = false ∧ sameSign p.2 r.2 = true := by
  induction rest generalizing p q with
  | nil =>
    obtain ⟨hp, hq, hsign, -⟩ := firstChange_cons_eq_none_iff.mp h
    intro r hr
    rcases List.mem_pair.mp hr with rfl | rfl
    · exact ⟨hp, beq_self_eq_true _⟩
    · exact ⟨hq, hsign⟩
  | cons r rest ih =>
    obtain ⟨hp, -, hsign, hrest⟩ := firstChange_cons_eq_none_iff.mp h
    intro r' hr'
    rcases List.mem_cons.mp hr' with rfl | hr'
    · exact ⟨hp, beq_self_eq_true _⟩
    · obtain ⟨hr, hsign'⟩ := ih hrest r' hr'
      exact ⟨hr, (sameSign_congr hsign r'.2).trans hsign'⟩

theorem bracket?_eq {g : α → α} {candidates : List α} (hf : ∀ c ∈ candidates, f c = some (g c)) :
    bracket? f candidates = firstChange (candidates.map fun c => (c, g c)) := by
  unfold bracket?
  congr 1
  rw [← List.filterMap_eq_map]
  apply List.filterMap_congr
  intro c hc
  rw [hf c hc]
  rfl

end

variable {K : Type} [Elementary K] [Field K] [LinearOrder K] [FloorRing K]

theorem middle_eq (lo hi : K) : (0.5 : K) * (lo + hi) = (lo + hi) / 2 := by
  have hhalf : (0.5 : K) = 1 / 2 := by norm_num
  rw [hhalf, one_div_mul_eq_div]

theorem bisectFrom_succ {f : K → Option K} {lo hi fmid : K} (hmid : f ((lo + hi) / 2) = some fmid)
    (tolerance flo : K) (steps : Nat) :
    bisectFrom f tolerance (steps + 1) lo flo hi =
      if |fmid| < tolerance ∨ |hi - lo| ≤ spacing * max |(lo + hi) / 2| 1 then some ((lo + hi) / 2)
      else if sameSign fmid flo then bisectFrom f tolerance steps ((lo + hi) / 2) fmid hi
      else bisectFrom f tolerance steps lo flo ((lo + hi) / 2) := by
  rw [bisectFrom, middle_eq]
  simp only [hmid, greater_ofField, Bool.or_eq_true, decide_eq_true_eq]
  rfl

/-- The values at the candidates are not all on one side of zero: one is zero, or two have opposite
signs. -/
def ChangesSign (g : K → K) (candidates : List K) : Prop :=
  (∃ c ∈ candidates, g c = 0) ∨ ∃ c ∈ candidates, ∃ d ∈ candidates, g c < 0 ∧ 0 < g d

theorem one_sign_or_changesSign (g : K → K) (candidates : List K) :
    (∀ c ∈ candidates, g c < 0) ∨ (∀ c ∈ candidates, 0 < g c) ∨ ChangesSign g candidates := by
  by_cases hneg : ∀ c ∈ candidates, g c < 0
  · exact .inl hneg
  · by_cases hpos : ∀ c ∈ candidates, 0 < g c
    · exact .inr (.inl hpos)
    · push Not at hneg hpos
      obtain ⟨d, hd, hd'⟩ := hneg
      obtain ⟨c, hc, hc'⟩ := hpos
      refine .inr (.inr ?_)
      rcases hd'.eq_or_lt with hzero | hd'
      · exact .inl ⟨d, hd, hzero.symm⟩
      · rcases hc'.eq_or_lt with hzero | hc'
        · exact .inl ⟨c, hc, hzero⟩
        · exact .inr ⟨c, hc, d, hd, hc', hd'⟩

theorem ChangesSign.exists_bracket {f : K → Option K} {g : K → K} {candidates : List K}
    (h : ChangesSign g candidates) (hlength : 2 ≤ candidates.length)
    (hf : ∀ c ∈ candidates, f c = some (g c)) :
    ∃ a ∈ candidates, ∃ b ∈ candidates, bracket? f candidates = some (a, b) ∧
      (g a == 0 || g b == 0 || !sameSign (g a) (g b)) = true := by
  rw [bracket?_eq hf]
  cases hchange : firstChange (candidates.map fun x => (x, g x)) with
  | some bracket =>
    obtain ⟨ga, gb, hga, hgb, hends⟩ := firstChange_eq_some hchange
    obtain ⟨_, ha, ⟨⟩⟩ := List.mem_map.mp hga
    obtain ⟨_, hb, ⟨⟩⟩ := List.mem_map.mp hgb
    exact ⟨bracket.1, ha, bracket.2, hb, rfl, hends⟩
  | none =>
    obtain ⟨c, d, rest, rfl⟩ : ∃ c d rest, candidates = c :: d :: rest := by
      match candidates, hlength with
      | c :: d :: rest, _ => exact ⟨c, d, rest, rfl⟩
    have hsame {x : K} (hx : x ∈ c :: d :: rest) : g x ≠ 0 ∧ (g c < 0 ↔ g x < 0) := by
      have hpoint : (x, g x) ∈ (c :: d :: rest).map fun x => (x, g x) :=
        List.mem_map.mpr ⟨x, hx, rfl⟩
      obtain ⟨hzero, hsign⟩ := firstChange_eq_none hchange (x, g x) hpoint
      exact ⟨of_decide_eq_false hzero, sameSign_ofField.mp hsign⟩
    rcases h with ⟨x, hx, hzero⟩ | ⟨x, hx, y, hy, hneg, hpos⟩
    · exact absurd hzero (hsame hx).1
    · exact absurd hpos ((hsame hy).2.mp ((hsame hx).2.mpr hneg)).not_gt

variable [IsStrictOrderedRing K]

theorem spacing_pos : (0 : K) < spacing := by
  unfold spacing
  positivity

theorem width_middle_right (lo hi : K) : |hi - (lo + hi) / 2| = |hi - lo| / 2 := by
  have hhalf : hi - (lo + hi) / 2 = (hi - lo) / 2 := by ring
  rw [hhalf, abs_div, Nat.abs_ofNat]

theorem width_middle_left (lo hi : K) : |(lo + hi) / 2 - lo| = |hi - lo| / 2 := by
  have hhalf : (lo + hi) / 2 - lo = (hi - lo) / 2 := by ring
  rw [hhalf, abs_div, Nat.abs_ofNat]

section

variable {f : K → Option K} {P : K → Prop}

/-- Among points that all have a value, and between which all middles lie, a bracket is halved until a
value is near zero or the bracket is no wider than the spacing of numbers. -/
theorem exists_bisectFrom_eq_some (hvalue : ∀ x, P x → ∃ y, f x = some y)
    (hmiddle : ∀ x y, P x → P y → P ((x + y) / 2)) (tolerance : K) {halvings steps : Nat}
    (hsteps : halvings < steps) {lo hi : K} (flo : K) (hlo : P lo) (hhi : P hi)
    (hwidth : |hi - lo| ≤ 2 ^ halvings * spacing) :
    ∃ x, P x ∧ bisectFrom f tolerance steps lo flo hi = some x := by
  induction halvings generalizing steps lo flo hi with
  | zero =>
    obtain ⟨steps, rfl⟩ := Nat.exists_eq_add_one.mpr hsteps
    have hmid := hmiddle lo hi hlo hhi
    obtain ⟨fmid, hfmid⟩ := hvalue _ hmid
    have hnarrow : |hi - lo| ≤ spacing * max |(lo + hi) / 2| 1 := by
      calc |hi - lo| ≤ spacing * 1 := by simpa using hwidth
        _ ≤ spacing * max |(lo + hi) / 2| 1 :=
          mul_le_mul_of_nonneg_left (le_max_right _ _) spacing_pos.le
    refine ⟨(lo + hi) / 2, hmid, ?_⟩
    rw [bisectFrom_succ hfmid, if_pos (.inr hnarrow)]
  | succ halvings ih =>
    obtain ⟨steps, rfl⟩ := Nat.exists_eq_add_one.mpr (Nat.zero_lt_of_lt hsteps)
    have hsteps := Nat.lt_of_succ_lt_succ hsteps
    have hmid := hmiddle lo hi hlo hhi
    obtain ⟨fmid, hfmid⟩ := hvalue _ hmid
    have hhalf : |hi - lo| / 2 ≤ 2 ^ halvings * spacing := by
      rw [pow_succ] at hwidth
      linarith
    rw [bisectFrom_succ hfmid]
    split
    · exact ⟨_, hmid, rfl⟩
    · split
      · exact ih hsteps _ hmid hhi ((width_middle_right lo hi).trans_le hhalf)
      · exact ih hsteps _ hlo hmid ((width_middle_left lo hi).trans_le hhalf)

theorem exists_bisect_eq_some (hvalue : ∀ x, P x → ∃ y, f x = some y)
    (hmiddle : ∀ x y, P x → P y → P ((x + y) / 2)) (tolerance : K) {halvings steps : Nat}
    (hsteps : halvings < steps) {lo hi flo fhi : K} (hlo : P lo) (hhi : P hi)
    (hflo : f lo = some flo) (hfhi : f hi = some fhi) (hwidth : |hi - lo| ≤ 2 ^ halvings * spacing)
    (hchange : (flo == 0 || fhi == 0 || !sameSign flo fhi) = true) :
    ∃ x, P x ∧ bisect f lo hi tolerance steps = some x := by
  unfold bisect
  simp only [hflo, hfhi]
  split
  · exact ⟨lo, hlo, rfl⟩
  · rename_i hlo_ne
    split
    · exact ⟨hi, hhi, rfl⟩
    · rename_i hhi_ne
      have hsign : sameSign flo fhi = false := by simpa [hlo_ne, hhi_ne] using hchange
      rw [if_neg (by rw [hsign]; exact Bool.false_ne_true)]
      exact exists_bisectFrom_eq_some hvalue hmiddle tolerance hsteps flo hlo hhi hwidth

end

end RootSearch

end Reckoner
