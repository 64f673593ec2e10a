import Reckoner.Proofs.Persist.RoundTrip
import Reckoner.Proofs.Session.History

/-!
# Stored sessions

Which variables and lines of a session come back from JSON. Arithmetic gives every double, also the
infinite and the undefined ones, and those JSON does not have. A variable with such a value cannot be
read again. A line with one is read again without it, as a line that shows nothing: no session answers
with such a line.
-/

namespace Reckoner

open Json Scalar

theorem Variable.ofJson?_toJson_eq_ite (v : Variable Float) :
    ofJson? v.toJson = if v.value.isFinite then some v else none := by
  rw [ofJson?_toJson]
  show (if v.value.isFinite then some v.value else none).map _ = _
  split <;> rfl

theorem Variable.ofJson?_toJson_eq_some_iff (v : Variable Float) :
    ofJson? v.toJson = some v ↔ v.value.isFinite = true := by
  rw [v.ofJson?_toJson_eq_ite, Option.ite_none_right_eq_some]
  exact and_iff_left rfl

namespace Line

/-- What is read of a line that was written. -/
inductive IsReadAs (line : Line) : Option Line → Prop where
  | same (finite : ∀ x, line.value = some x → x.isFinite = true) : IsReadAs line (some line)
  | emptied {x : Float} (value_eq : line.value = some x) (not_finite : x.isFinite = false)
      (error_eq : line.error = none) : IsReadAs line (some { line with value := none })

theorem Shows.isReadAs {line : Line} {outcome : Answer Float Evaluated} (h : line.Shows outcome) :
    line.IsReadAs (ofJson? line.toJson) := by
  rw [line.ofJson?_toJson]
  cases h with
  | @value result value_eq error_eq =>
    cases hfinite : result.value.isFinite with
    | true =>
      have hbind : line.value.bind finite? = line.value := by
        rw [value_eq]
        exact finite?_eq_some hfinite
      rw [hbind]
      refine .same fun x hx => ?_
      rw [value_eq] at hx
      cases hx
      exact hfinite
    | false =>
      have hbind : line.value.bind finite? = none := by
        rw [value_eq]
        exact if_neg (Bool.not_eq_true _ ▸ hfinite)
      rw [hbind]
      exact .emptied value_eq hfinite error_eq
  | error value_eq error_eq =>
    have hbind : line.value.bind finite? = line.value := by rw [value_eq]; rfl
    rw [hbind]
    refine .same fun x hx => ?_
    rw [value_eq] at hx
    cases hx

theorem IsReadAs.eq_some_self_iff {line : Line} {read : Option Line} (h : line.IsReadAs read) :
    read = some line ↔ ∀ x, line.value = some x → x.isFinite = true := by
  cases h with
  | same finite => exact ⟨fun _ => finite, fun _ => rfl⟩
  | @emptied x value_eq not_finite error_eq =>
    constructor
    · intro hsame
      have hvalue : none = line.value := congrArg Line.value (Option.some.inj hsame)
      rw [value_eq] at hvalue
      cases hvalue
    · intro hfinite
      have htrue : x.isFinite = true := hfinite x value_eq
      rw [not_finite] at htrue
      cases htrue

end Line

namespace Calculator

theorem exists_shows_evaluateLine (c : Calculator) (text : String) :
    ∃ outcome, (c.evaluateLine text).1.Shows outcome := by
  by_cases hassigns : ∃ name source, Assigns text name source
  · obtain ⟨name, source, h⟩ := hassigns
    exact ⟨_, (c.evaluateLine_of_assigns h).2.shows⟩
  · have h : ∀ name source, ¬ Assigns text name source := fun name source h =>
      hassigns ⟨name, source, h⟩
    exact ⟨_, (c.evaluateLine_of_not_assigns h).2.shows⟩

/-- After any operations a variable comes back exactly when its value is finite, and otherwise nothing
does. A line comes back exactly when it has no value that is not finite, and otherwise without it. -/
theorem run_documents_read (registry : Registry Float) (solver : SolverConfig Float)
    (schedules : ScheduleConfig Float) (ops : List Operation) :
    (∀ v ∈ ((Calculator.mk registry (.ofRegistry registry) solver schedules).run ops).store.user,
      (Variable.ofJson? v.toJson = some v ↔ v.value.isFinite = true) ∧
      (v.value.isFinite = false → Variable.ofJson? v.toJson = none)) ∧
    ∀ text line,
      (((Calculator.mk registry (.ofRegistry registry) solver schedules).run ops).evaluateLine text).1 =
        line →
      (Line.ofJson? line.toJson = some line ↔ ∀ x, line.value = some x → x.isFinite = true) ∧
      line.IsReadAs (Line.ofJson? line.toJson) := by
  constructor
  · intro v _
    refine ⟨v.ofJson?_toJson_eq_some_iff, fun hvalue => ?_⟩
    rw [v.ofJson?_toJson_eq_ite, hvalue]
    rfl
  · rintro text line rfl
    obtain ⟨outcome, hshows⟩ := exists_shows_evaluateLine _ text
    exact ⟨hshows.isReadAs.eq_some_self_iff, hshows.isReadAs⟩

/-- After `x = 1/0` and `y = 1/2` the first variable is not read back and the second one is. The line
of the first comes back changed. -/
theorem run_documents_read_infinite :
    (∃ v ∈ (standard.run [.define "x" "1/0", .define "y" "1/2"]).store.user,
      v.name = "x" ∧ Variable.ofJson? v.toJson = none) ∧
    (∃ v ∈ (standard.run [.define "x" "1/0", .define "y" "1/2"]).store.user,
      v.name = "y" ∧ Variable.ofJson? v.toJson = some v) ∧
    ∃ line, ((standard.run []).evaluateLine "x = 1/0").1 = line ∧
      Line.ofJson? line.toJson ≠ some line := by
  refine ⟨?_, ?_, _, rfl, ?_⟩
  · have hany : (standard.run [.define "x" "1/0", .define "y" "1/2"]).store.user.any
        (fun v => v.name == "x" && !v.value.isFinite) = true := by decide +kernel
    obtain ⟨v, hv, h⟩ := List.any_eq_true.mp hany
    simp only [Bool.and_eq_true, beq_iff_eq, Bool.not_eq_true'] at h
    exact ⟨v, hv, h.1, ((run_documents_read Library.full .standard .standard _).1 v hv).2 h.2⟩
  · have hany : (standard.run [.define "x" "1/0", .define "y" "1/2"]).store.user.any
        (fun v => v.name == "y" && v.value.isFinite) = true := by decide +kernel
    obtain ⟨v, hv, h⟩ := List.any_eq_true.mp hany
    simp only [Bool.and_eq_true, beq_iff_eq] at h
    exact ⟨v, hv, h.1, ((run_documents_read Library.full .standard .standard _).1 v hv).1.mpr h.2⟩
  · have hread := (run_documents_read Library.full .standard .standard []).2 "x = 1/0" _ rfl
    have hany : (((standard.run []).evaluateLine "x = 1/0").1.value.any fun x => !x.isFinite) = true := by
      decide +kernel
    obtain ⟨x, hx, hvalue⟩ := Option.any_eq_true _ _ |>.mp hany
    intro hsame
    have htrue := hread.1.mp hsame x hx
    rw [htrue] at hvalue
    cases hvalue

end Calculator

end Reckoner
