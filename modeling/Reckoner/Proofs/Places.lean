import Reckoner.Expr
import Reckoner.Failure.Wording

/-!
# Places left out of account

Expressions, causes and failures without the offsets in them, and answers that match: both there or
both failing, with what they hold related. Two computations match when their steps do, one after the
other.
-/

namespace Reckoner

variable {α : Type}

/-! ## Without offsets -/

def UnaryOperator.unplaced : UnaryOperator → UnaryOperator
  | neg => neg
  | factorial _ => factorial 0

namespace Expr

mutual

/-- The expression with every offset set to zero. -/
def unplaced : Expr α → Expr α
  | literal value => literal value
  | variableRef name _ => variableRef name 0
  | unary op operand => unary op.unplaced (unplaced operand)
  | binary op left right => binary op (unplaced left) (unplaced right)
  | call name args _ => call name (unplacedEach args) 0

def unplacedEach : List (Expr α) → List (Expr α)
  | [] => []
  | e :: rest => unplaced e :: unplacedEach rest

end

theorem unplacedEach_eq_map (args : List (Expr α)) : unplacedEach args = args.map unplaced := by
  induction args with
  | nil => rfl
  | cons e rest ih => rw [unplacedEach, ih, List.map_cons]

end Expr

/-- The only offset in a cause is that of an open parenthesis. -/
def Cause.unplaced : Cause α → Cause α
  | malformed (.missingParen _) => malformed (.missingParen 0)
  | c => c

/-- The failures have the same cause but for the places in it. -/
def Failure.Alike (f g : Failure α) : Prop := f.cause.unplaced = g.cause.unplaced

/-- The reports say the same to a program that branches on them, and give the same advice. -/
structure Report.Agrees (r r' : Report) : Prop where
  kind_eq : r.kind = r'.kind
  code_eq : r.code = r'.code
  suggestion_eq : r.suggestion = r'.suggestion

theorem Cause.report_unplaced_agrees (c : Cause Float) : c.unplaced.report.Agrees c.report := by
  unfold unplaced
  split
  · exact ⟨rfl, rfl, rfl⟩
  · exact ⟨rfl, rfl, rfl⟩

/-- Places are told in the message and in the position, and nowhere else. -/
theorem Failure.Alike.report_agrees {f g : Failure Float} (h : f.Alike g) :
    f.report.Agrees g.report := by
  have hf := f.cause.report_unplaced_agrees
  have hg := g.cause.report_unplaced_agrees
  rw [Alike] at h
  rw [h] at hf
  exact ⟨hf.kind_eq.symm.trans hg.kind_eq, hf.code_eq.symm.trans hg.code_eq,
    hf.suggestion_eq.symm.trans hg.suggestion_eq⟩

/-! ## Answers that match -/

namespace Answer

variable {β γ δ ε : Type} {R : β → γ → Prop} {S : δ → ε → Prop} {E : Failure α → Failure α → Prop}

/-- Both answer, and the answers are related, or both fail, and the failures are. -/
inductive Matches (R : β → γ → Prop) (E : Failure α → Failure α → Prop) :
    Answer α β → Answer α γ → Prop where
  | ok {x : β} {y : γ} (related : R x y) : Matches R E (.ok x) (.ok y)
  | error {f g : Failure α} (related : E f g) : Matches R E (.error f) (.error g)

/-- Steps that match, followed by steps that match from related results. -/
theorem Matches.bind {first : Answer α β} {first' : Answer α γ} {rest : β → Answer α δ}
    {rest' : γ → Answer α ε} (h : Matches R E first first')
    (hrest : ∀ x y, first = .ok x → first' = .ok y → R x y → Matches S E (rest x) (rest' y)) :
    Matches S E (first >>= rest) (first' >>= rest') := by
  cases h with
  | ok related => exact hrest _ _ rfl rfl related
  | error related => exact .error related

theorem Matches.imp {E' : Failure α → Failure α → Prop} {R' : β → γ → Prop} {first : Answer α β}
    {first' : Answer α γ} (h : Matches R E first first') (hR : ∀ x y, R x y → R' x y)
    (hE : ∀ f g, E f g → E' f g) : Matches R' E' first first' := by
  cases h with
  | ok related => exact .ok (hR _ _ related)
  | error related => exact .error (hE _ _ related)

theorem Matches.dest {first : Answer α β} {first' : Answer α γ} (h : Matches R E first first') :
    (∃ x y, first = .ok x ∧ first' = .ok y ∧ R x y) ∨
      ∃ f g, first = .error f ∧ first' = .error g ∧ E f g := by
  cases h with
  | ok related => exact .inl ⟨_, _, rfl, rfl, related⟩
  | error related => exact .inr ⟨_, _, rfl, rfl, related⟩

/-- Answers that match the same answer match each other. -/
theorem Matches.of_common {first first' common : Answer α β}
    (h : Matches (· = ·) Failure.Alike first common)
    (h' : Matches (· = ·) Failure.Alike first' common) :
    Matches (· = ·) Failure.Alike first first' := by
  cases h with
  | ok related =>
    cases h' with
    | ok related' => exact .ok (related.trans related'.symm)
  | error related =>
    cases h' with
    | error related' => exact .error (related.trans related'.symm)

theorem Matches.mapM {run run' : β → Answer α γ} (xs : List β)
    (h : ∀ x ∈ xs, Matches (· = ·) E (run x) (run' x)) :
    Matches (· = ·) E (xs.mapM run) (xs.mapM run') := by
  induction xs with
  | nil => exact .ok rfl
  | cons x rest ih =>
    obtain ⟨hx, hrest⟩ := List.forall_mem_cons.mp h
    rw [List.mapM_cons, List.mapM_cons]
    apply hx.bind
    intro y y' _ _ hy
    apply (ih hrest).bind
    intro ys ys' _ _ hys
    refine .ok ?_
    rw [hy, hys]

/-- A place that is added to a failure does not change its cause. -/
theorem matches_locate (answer : Answer α β) (offset offset' : Nat) :
    Matches (· = ·) Failure.Alike (answer.mapError fun failure => failure.locate offset)
      (answer.mapError fun failure => failure.locate offset') := by
  cases answer with
  | ok x => exact .ok rfl
  | error failure =>
    refine .error (congrArg Cause.unplaced ?_)
    obtain ⟨cause, position⟩ := failure
    cases position <;> rfl

end Answer

end Reckoner
