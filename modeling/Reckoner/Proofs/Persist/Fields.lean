import Reckoner.Json.Record
import Reckoner.Scalar.Double

/-!
# Reading back what was written

What the readers of single values and of fields make of what the writers wrote. A double comes back
when it is finite; where it may be missing, it comes back as missing when it is not.
-/

namespace Reckoner.Json

open Scalar

variable {β : Type}

/-! ## Values -/

@[simp] theorem str?_str (s : String) : str? (str s) = some s := rfl

@[simp] theorem bool?_bool (b : Bool) : bool? (bool b) = some b := rfl

@[simp] theorem nat?_ofNat (n : Nat) : nat? (ofNat n) = some n := rfl

@[simp] theorem char?_singleton (c : Char) : char? (str (String.singleton c)) = some c := by
  rw [char?, String.toList_singleton]

theorem finite?_eq_some {x : Float} (h : x.isFinite = true) : finite? x = some x := if_pos h

theorem bind_finite?_eq_self {value : Option Float} (h : ∀ x ∈ value.toList, x.isFinite = true) :
    value.bind finite? = value := by
  cases value with
  | none => rfl
  | some x => exact finite?_eq_some (h x List.mem_cons_self)

@[simp] theorem float?_ofFloat (x : Float) : float? (ofFloat x) = finite? x := by
  show _ = if x.isFinite then some x else none
  unfold ofFloat
  split <;> rfl

@[simp] theorem optional?_ofFloat (x : Float) : optional? float? (ofFloat x) = some (finite? x) := by
  show _ = some (if x.isFinite then some x else none)
  unfold ofFloat
  split <;> rfl

@[simp] theorem optional?_ofOption_ofFloat (value : Option Float) :
    optional? float? (ofOption ofFloat value) = some (value.bind finite?) := by
  cases value with
  | none => rfl
  | some x => exact optional?_ofFloat x

/-- One of several names of their own comes back. -/
theorem enum?_str {all : List β} {name : β → String} (hdistinct : (all.map name).Nodup) {x : β}
    (hx : x ∈ all) : enum? all name (str (name x)) = some x := by
  show (all.find? fun y => name y == name x) = some x
  induction all with
  | nil => cases hx
  | cons y rest ih =>
    rw [List.map_cons, List.nodup_cons] at hdistinct
    obtain rfl | hrest := List.mem_cons.mp hx
    · exact List.find?_cons_of_pos (beq_self_eq_true _)
    · have hne : name y ≠ name x := fun heq => hdistinct.1 (heq ▸ List.mem_map_of_mem hrest)
      rw [List.find?_cons_of_neg (by simpa using hne)]
      exact ih hdistinct.2 hrest

theorem list?_map {encode : β → Json} {decode : Json → Option β} {xs : List β}
    (h : ∀ x ∈ xs, decode (encode x) = some x) : list? decode (arr (xs.map encode)) = some xs := by
  show (xs.map encode).mapM decode = some xs
  induction xs with
  | nil => rfl
  | cons x rest ih =>
    obtain ⟨hx, hrest⟩ := List.forall_mem_cons.mp h
    rw [List.map_cons, List.mapM_cons, hx, ih hrest]
    rfl

/-! ## Fields -/

@[simp] theorem lookup_field?_self (key : String) (encode : β → Json) (value : Option β) :
    (field? key encode value).lookup key = value.map encode := by
  cases value with
  | none => rfl
  | some x => exact List.lookup_cons_self

@[simp] theorem lookup_field?_of_ne {key key' : String} (h : key' ≠ key) (encode : β → Json)
    (value : Option β) : (field? key encode value).lookup key' = none := by
  cases value with
  | none => rfl
  | some x => rw [field?, List.lookup_cons, beq_false_of_ne h]; rfl

@[simp] theorem record?_obj (names : List String) (fields : List (String × Json)) :
    record? names (obj fields) = some ⟨fields, false⟩ := rfl

namespace Record

variable (fields : List (String × Json)) (key : String) (decode : Json → Option β)

@[simp] theorem required_mk (positional : Bool) :
    required ⟨fields, positional⟩ key decode = (fields.lookup key).bind decode := rfl

@[simp] theorem withDefault_mk (positional : Bool) (missing : β) :
    withDefault ⟨fields, positional⟩ key decode missing = (fields.lookup key).elim (some missing) decode := by
  unfold withDefault get?
  cases fields.lookup key <;> rfl

@[simp] theorem nullable_mk :
    nullable ⟨fields, false⟩ key decode = (fields.lookup key).elim (some none) (optional? decode) := by
  unfold nullable get?
  cases fields.lookup key <;> rfl

@[simp] theorem omissible_mk (positional : Bool) :
    omissible ⟨fields, positional⟩ key decode = (fields.lookup key).elim (some none) (optional? decode) :=
  withDefault_mk fields key (optional? decode) positional none

end Record

/-! What a field that may be left out is read as, in the form to which the readers above reduce. -/

@[simp] theorem elim_optional?_str (value : Option String) :
    value.elim (some none) (optional? str? ∘ str) = some value := by
  cases value <;> rfl

@[simp] theorem elim_optional?_ofNat (value : Option Nat) :
    value.elim (some none) (optional? nat? ∘ ofNat) = some value := by
  cases value <;> rfl

@[simp] theorem elim_optional?_ofFloat (value : Option Float) :
    value.elim (some none) (optional? float? ∘ ofFloat) = some (value.bind finite?) := by
  cases value with
  | none => rfl
  | some x => exact optional?_ofFloat x

end Reckoner.Json
