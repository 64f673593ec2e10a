import Reckoner.Proofs.Meaning.FreeNames

/-!
# Renaming the variable of an integral

The variable that an integral binds can be given any other name that does not occur in the body. The
new name may have a value around the integral, and the old one may be bound again inside it: no
occurrence is caught by another binding.
-/

namespace Reckoner

namespace Text

/-- ASCII text has the lower case of its letters one by one. -/
theorem lowerAfter_eq_map_toLower {cs : List Char} (h : ∀ c ∈ cs, c.toNat < 128)
    (before : List Char) : lowerAfter before cs = cs.map Char.toLower := by
  have hascii : (List.range 128).all (fun n =>
      lowerChar (Char.ofNat n) == [(Char.ofNat n).toLower] && Char.ofNat n != 'Σ') = true := by
    decide +kernel
  induction cs generalizing before with
  | nil => rfl
  | cons c rest ih =>
    obtain ⟨hc, hrest⟩ := List.forall_mem_cons.mp h
    have hletter := List.all_eq_true.mp hascii c.toNat (List.mem_range.mpr hc)
    rw [Char.ofNat_toNat] at hletter
    obtain ⟨hlower, hsigma⟩ := Bool.and_eq_true_iff.mp hletter
    rw [lowerAfter, if_neg (bne_iff_ne.mp hsigma), eq_of_beq hlower, ih hrest]
    rfl

theorem toNat_lt_of_toLower {c : Char} (h : c.toLower.toNat < 128) : c.toNat < 128 := by
  unfold Char.toLower at h
  split at h
  · rename_i hupper
    exact Nat.lt_of_le_of_lt hupper.2 (by decide)
  · exact h

/-- A text that is ASCII text but for the case of its letters has the same lower case. -/
theorem lower_eq_of_sameIgnoringCase {a b : String} (h : sameIgnoringCase a b = true)
    (hb : ∀ c ∈ b.toList.map Char.toLower, c.toNat < 128) : lower a = lower b := by
  have heq : a.toList.map Char.toLower = b.toList.map Char.toLower := eq_of_beq h
  have hascii {s : String} (hs : s.toList.map Char.toLower = b.toList.map Char.toLower) :
      ∀ c ∈ s.toList, c.toNat < 128 := by
    intro c hc
    apply toNat_lt_of_toLower
    apply hb
    rw [← hs]
    exact List.mem_map_of_mem hc
  rw [lower, lower, lowerAfter_eq_map_toLower (hascii heq), lowerAfter_eq_map_toLower (hascii rfl), heq]

end Text

namespace Expr

variable {α : Type}

mutual

/-- The names at all variables of an expression, those that integrals bind included. -/
def variableNames : Expr α → List String
  | literal _ => []
  | variableRef name _ => [name]
  | unary _ operand => variableNames operand
  | binary _ left right => variableNames left ++ variableNames right
  | call _ args _ => variableNamesOfEach args

def variableNamesOfEach : List (Expr α) → List String
  | [] => []
  | e :: rest => variableNames e ++ variableNamesOfEach rest

end

theorem variableNamesOfEach_eq_flatMap (args : List (Expr α)) :
    variableNamesOfEach args = args.flatMap variableNames := by
  induction args with
  | nil => rfl
  | cons e rest ih => rw [variableNamesOfEach, ih, List.flatMap_cons]

theorem not_mem_variableNames_call {y name : String} {args : List (Expr α)} {offset : Nat} :
    y ∉ variableNames (call name args offset) ↔ ∀ e ∈ args, y ∉ variableNames e := by
  rw [variableNames, variableNamesOfEach_eq_flatMap]
  simp only [List.mem_flatMap, not_exists, not_and]

section

variable {registry : Registry α} {name : String} {args : List (Expr α)} {offset : Nat}

theorem mem_freeNamesOfEach {free : String} (h : free ∈ freeNamesOfEach registry args) :
    ∃ e ∈ args, free ∈ freeNames registry e := by
  induction args with
  | nil => cases h
  | cons e rest ih =>
    obtain he | hrest := List.mem_append.mp h
    · exact ⟨e, List.mem_cons_self, he⟩
    · obtain ⟨e', he', hfree⟩ := ih hrest
      exact ⟨e', List.mem_cons_of_mem e he', hfree⟩

/-- What is free in a call is free in one of its arguments. -/
theorem mem_freeNames_call {free : String}
    (h : free ∈ freeNames registry (call name args offset)) :
    ∃ e ∈ args, free ∈ freeNames registry e := by
  rw [freeNames.eq_def] at h
  cases special : isIntegral registry name with
  | false =>
    simp only [special, Bool.false_eq_true, if_false] at h
    exact mem_freeNamesOfEach h
  | true =>
    simp only [special, if_true] at h
    split at h
    · rename_i body v place lower upper
      obtain h | hupper := List.mem_append.mp h
      · obtain hbody | hlower := List.mem_append.mp h
        · exact ⟨body, by simp, (List.mem_filter.mp hbody).1⟩
        · exact ⟨lower, by simp, hlower⟩
      · exact ⟨upper, by simp, hupper⟩
    · exact mem_freeNamesOfEach h

/-- The free names are among the names at all variables. -/
theorem freeNames_subset (registry : Registry α) (e : Expr α) :
    freeNames registry e ⊆ variableNames e := by
  induction e using Expr.induction with
  | literal value => exact List.Subset.refl _
  | variableRef name offset => exact List.Subset.refl _
  | unary op operand ih => exact ih
  | binary op left right ihLeft ihRight =>
    intro free hfree
    rw [variableNames, List.mem_append]
    exact (List.mem_append.mp hfree).imp (@ihLeft free) (@ihRight free)
  | call name args offset ih =>
    intro free hfree
    obtain ⟨e, he, hfree⟩ := mem_freeNames_call hfree
    rw [variableNames, variableNamesOfEach_eq_flatMap]
    exact List.mem_flatMap.mpr ⟨e, he, ih e he hfree⟩

end

/-- No function is called like the special form, so every spelling of its name means it. -/
theorem isIntegral_of_sameIgnoringCase {registry : Registry α} {name : String}
    (hregistry : registry.hasFunction integralName = false)
    (hname : Text.sameIgnoringCase name integralName = true) : isIntegral registry name = true := by
  have hascii : (integralName.toList.map Char.toLower).all (fun c => decide (c.toNat < 128)) = true := by
    decide +kernel
  have hlower : Text.lower name = Text.lower integralName := by
    apply Text.lower_eq_of_sameIgnoringCase hname
    intro c hc
    exact of_decide_eq_true (List.all_eq_true.mp hascii c hc)
  have hfunction : registry.hasFunction name = registry.hasFunction integralName := by
    rw [Registry.hasFunction, Registry.hasFunction, Registry.function?, Registry.function?, hlower]
  rw [isIntegral, hname, hfunction, hregistry]
  rfl

/-- The name that `x` is changed to is `y`; other names stay. -/
def renamed (x y name : String) : String := if name = x then y else name

variable (registry : Registry α) (x y : String)

mutual

/-- The expression with `y` in place of every free `x`, at the same offsets. -/
def renameFree : Expr α → Expr α
  | literal value => literal value
  | variableRef name offset => variableRef (renamed x y name) offset
  | unary op operand => unary op (renameFree operand)
  | binary op left right => binary op (renameFree left) (renameFree right)
  | call name args offset =>
    if isIntegral registry name then
      match args with
      | [body, variableRef v place, lower, upper] =>
        call name [if v = x then body else renameFree body, variableRef v place, renameFree lower,
          renameFree upper] offset
      | args => call name (renameFreeInEach args) offset
    else call name (renameFreeInEach args) offset

def renameFreeInEach : List (Expr α) → List (Expr α)
  | [] => []
  | e :: rest => renameFree e :: renameFreeInEach rest

end

variable {registry} {name : String} {args : List (Expr α)} {offset : Nat}

theorem renameFreeInEach_eq_map :
    renameFreeInEach registry x y args = args.map (renameFree registry x y) := by
  induction args with
  | nil => rfl
  | cons e rest ih => rw [renameFreeInEach, ih, List.map_cons]

theorem renameFree_integral (special : isIntegral registry name = true) (body : Expr α) (v : String)
    (place : Nat) (lower upper : Expr α) :
    renameFree registry x y (call name [body, variableRef v place, lower, upper] offset) =
      call name [if v = x then body else renameFree registry x y body, variableRef v place,
        renameFree registry x y lower, renameFree registry x y upper] offset := by
  rw [renameFree.eq_def]
  simp only [special, if_true]

/-- Every call but a well-formed integral is renamed argument by argument. -/
theorem renameFree_call (h : isIntegral registry name = true → ¬ AreIntegral args) :
    renameFree registry x y (call name args offset) =
      call name (args.map (renameFree registry x y)) offset := by
  rw [renameFree.eq_def, ← renameFreeInEach_eq_map]
  cases special : isIntegral registry name with
  | false => simp only [special, Bool.false_eq_true, if_false]
  | true =>
    simp only [special, if_true]
    split
    · exact absurd (.intro ..) (h special)
    · rfl

/-- Nothing but a variable becomes one. -/
theorem exists_eq_variableRef_of_renameFree {e : Expr α} {v : String} {place : Nat}
    (h : renameFree registry x y e = variableRef v place) : ∃ u, e = variableRef u place := by
  cases e with
  | variableRef name offset =>
    cases h
    exact ⟨name, rfl⟩
  | literal value => cases h
  | unary op operand => cases h
  | binary op left right => cases h
  | call name args offset =>
    by_cases hcall : isIntegral registry name = true ∧ AreIntegral args
    · obtain ⟨special, ⟨body, v, place, lower, upper⟩⟩ := hcall
      rw [renameFree_integral x y special] at h
      cases h
    · rw [renameFree_call x y fun special hargs => hcall ⟨special, hargs⟩] at h
      cases h

theorem areIntegral_of_map_renameFree (h : AreIntegral (args.map (renameFree registry x y))) :
    AreIntegral args := by
  refine h.of_map fun e v place he => ?_
  obtain ⟨u, rfl⟩ := exists_eq_variableRef_of_renameFree x y he
  exact ⟨u, place, rfl⟩

end Expr

/-! ## Environments before and after -/

namespace Environment

variable {α : Type} {env env' : Environment α} {x y : String}

/-- What a name stands for in `env`, it stands for in `env'` once it is renamed; `y` is not in use. And
`x` stands for something, so that no failure names it. -/
structure Follows (x y : String) (env env' : Environment α) : Prop where
  renamed_eq : ∀ name, name ≠ y → env' (Expr.renamed x y name) = env name
  defined : ∃ t, env x = some t

/-- The variable takes its new name along with its value. -/
theorem follows_extend (x y : String) (env : Environment α) (t : α) :
    Follows x y (env.extend x t) (env.extend y t) where
  renamed_eq := by
    intro name hname
    unfold Expr.renamed
    split
    · rename_i hx
      rw [extend, extend, if_pos rfl, if_pos hx]
    · rename_i hx
      rw [extend, extend, if_neg hname, if_neg hx]
  defined := ⟨t, if_pos rfl⟩

theorem Follows.extend {v : String} (h : Follows x y env env') (hx : v ≠ x) (hy : v ≠ y) (t : α) :
    Follows x y (env.extend v t) (env'.extend v t) where
  renamed_eq := by
    intro name hname
    by_cases hv : name = v
    · have hstays : Expr.renamed x y v = v := if_neg hx
      rw [hv, hstays, Environment.extend, Environment.extend, if_pos rfl, if_pos rfl]
    · have hrenamed : Expr.renamed x y name ≠ v := by
        unfold Expr.renamed
        split
        · exact Ne.symm hy
        · exact hv
      rw [Environment.extend, Environment.extend, if_neg hrenamed, if_neg hv]
      exact h.renamed_eq name hname
  defined := by
    obtain ⟨u, hu⟩ := h.defined
    exact ⟨u, by rw [Environment.extend, if_neg (Ne.symm hx), hu]⟩

/-- Where `x` is bound again nothing is renamed, and nothing needs to be. -/
theorem Follows.agreeOn_extend {names : List String} (h : Follows x y env env') (hy : y ∉ names)
    (t : α) : AgreeOn names (env'.extend x t) (env.extend x t) := by
  intro name hname
  by_cases hx : name = x
  · rw [Environment.extend, Environment.extend, if_pos hx, if_pos hx]
  · have hvalue := h.renamed_eq name (ne_of_mem_of_not_mem hname hy)
    rw [Expr.renamed, if_neg hx] at hvalue
    rw [Environment.extend, Environment.extend, if_neg hx, if_neg hx, hvalue]

end Environment

/-! ## The meaning after renaming -/

namespace Expr

open Environment

variable {α : Type} [Scalar α] {registry : Registry α} {x y name : String} {args : List (Expr α)}
  {offset : Nat} {env env' : Environment α}

theorem meanings_map_renameFree (hargs : ∀ e ∈ args,
      meaning registry (renameFree registry x y e) env' = meaning registry e env) :
    meanings registry (args.map (renameFree registry x y)) env' = meanings registry args env := by
  induction args with
  | nil => rfl
  | cons e rest ih =>
    rw [List.map_cons, meanings, meanings, hargs e List.mem_cons_self,
      ih fun e' he' => hargs e' (List.mem_cons_of_mem e he')]

/-- The body of an integral over `x` is left alone, and any other body is renamed under the binding. -/
theorem meaning_renameFree_integral (special : isIntegral registry name = true) {body : Expr α}
    {v : String} {place : Nat} {lower upper : Expr α}
    (ih : ∀ e ∈ [body, variableRef v place, lower, upper], ∀ env env', y ∉ variableNames e →
      Follows x y env env' →
        meaning registry (renameFree registry x y e) env' = meaning registry e env)
    (hy : y ∉ variableNames (call name [body, variableRef v place, lower, upper] offset))
    (h : Follows x y env env') :
    meaning registry (renameFree registry x y
        (call name [body, variableRef v place, lower, upper] offset)) env' =
      meaning registry (call name [body, variableRef v place, lower, upper] offset) env := by
  rw [not_mem_variableNames_call] at hy
  have hbody : y ∉ variableNames body := hy body (by simp)
  have hv : y ≠ v := List.ne_of_not_mem_cons (hy (variableRef v place) (by simp))
  have hlower := ih lower (by simp) env env' (hy lower (by simp)) h
  have hupper := ih upper (by simp) env env' (hy upper (by simp)) h
  have hsample : ∀ t, meaning registry (if v = x then body else renameFree registry x y body)
      (env'.extend v t) = meaning registry body (env.extend v t) := by
    intro t
    split
    · rename_i heq
      subst heq
      apply meaning_congr
      exact h.agreeOn_extend (fun hfree => hbody (freeNames_subset registry body hfree)) t
    · rename_i hx
      exact ih body (by simp) _ _ hbody (h.extend hx hv.symm t)
  rw [renameFree_integral x y special, meaning_integral special, meaning_integral special, hlower,
    hupper]
  simp only [hsample]

theorem meaning_renameFree_call
    (ih : ∀ e ∈ args, ∀ env env', y ∉ variableNames e → Follows x y env env' →
      meaning registry (renameFree registry x y e) env' = meaning registry e env)
    (hy : y ∉ variableNames (call name args offset)) (h : Follows x y env env') :
    meaning registry (renameFree registry x y (call name args offset)) env' =
      meaning registry (call name args offset) env := by
  cases special : isIntegral registry name with
  | true =>
    by_cases hargs : AreIntegral args
    · obtain ⟨body, v, place, lower, upper⟩ := hargs
      exact meaning_renameFree_integral special ih hy h
    · rw [renameFree_call x y fun _ => hargs, meaning_malformedIntegral special hargs,
        meaning_malformedIntegral special fun hmap => hargs (areIntegral_of_map_renameFree x y hmap),
        List.length_map]
  | false =>
    rw [not_mem_variableNames_call] at hy
    have hvalues := meanings_map_renameFree fun e he => ih e he env env' (hy e he) h
    rw [renameFree_call x y fun htrue => absurd (special.symm.trans htrue) Bool.false_ne_true,
      meaning_of_not_integral special, meaning_of_not_integral special, hvalues]

/-- Renaming keeps the meaning where the new name stands for what the old one stood for. -/
theorem meaning_renameFree {e : Expr α} (hy : y ∉ variableNames e) (h : Follows x y env env') :
    meaning registry (renameFree registry x y e) env' = meaning registry e env := by
  induction e using Expr.induction generalizing env env' with
  | literal value => rfl
  | variableRef name offset =>
    have hvalue := h.renamed_eq name (Ne.symm (List.ne_of_not_mem_cons hy))
    rw [renameFree, meaning, meaning, hvalue]
    by_cases hx : name = x
    · obtain ⟨t, ht⟩ := h.defined
      rw [hx, ht]
    · rw [renamed, if_neg hx]
  | unary op operand ih =>
    cases op with
    | neg => rw [renameFree, meaning, meaning, ih hy h]
    | factorial offset => rw [renameFree, meaning, meaning, ih hy h]
  | binary op left right ihLeft ihRight =>
    rw [variableNames, List.mem_append, not_or] at hy
    rw [renameFree, meaning, meaning, ihLeft hy.1 h, ihRight hy.2 h]
  | call name args offset ih =>
    exact meaning_renameFree_call (fun e he env env' hy h => ih e he hy h) hy h

/-- Renaming the variable of an integral changes neither its value nor its failure, whatever the old and
the new name stand for around it. -/
theorem eval_integral_renameFree (registry : Registry α)
    (hregistry : registry.hasFunction integralName = false) {name : String}
    (hname : Text.sameIgnoringCase name integralName = true) (body lower upper : Expr α)
    (x y : String) (hy : y ∉ variableNames body) (place place' offset : Nat) (scope : Scope α) :
    eval registry (call name [body, variableRef x place, lower, upper] offset) scope =
      eval registry
        (call name [renameFree registry x y body, variableRef y place', lower, upper] offset) scope := by
  have special := isIntegral_of_sameIgnoringCase hregistry hname
  have hsample : ∀ t, meaning registry (renameFree registry x y body)
      (scope.environment.extend y t) = meaning registry body (scope.environment.extend x t) := by
    intro t
    apply meaning_renameFree hy
    exact follows_extend x y scope.environment t
  rw [means_eval registry _ scope, means_eval registry _ scope, meaning_integral special,
    meaning_integral special]
  simp only [hsample]

/-- The body binds the old name again in one integral and uses it under another binding in the next one.
Around it the new name is a user variable and the old one is bound; both stand in the bounds. -/
theorem eval_integral_renameFree_shadowed :
    Registry.hasFunction (Registry.empty : Registry Float) integralName = false ∧
    Text.sameIgnoringCase "Integral" integralName = true ∧
    "y" ∉ variableNames (binary .add
      (call "INTEGRAL" [variableRef "x" 18, variableRef "x" 21, literal (0 : Float), variableRef "x" 27] 9)
      (call "integral" [binary .mul (variableRef "x" 41) (variableRef "z" 43), variableRef "z" 46,
        literal 0, variableRef "x" 52] 32)) ∧
    eval (Registry.empty : Registry Float) (call "Integral" [binary .add
      (call "INTEGRAL" [variableRef "x" 18, variableRef "x" 21, literal 0, variableRef "x" 27] 9)
      (call "integral" [binary .mul (variableRef "x" 41) (variableRef "z" 43), variableRef "z" 46,
        literal 0, variableRef "x" 52] 32), variableRef "x" 56, variableRef "y" 59, variableRef "x" 62] 0)
      ⟨⟨[], [.ofValue "y" 2], List.pairwise_singleton _ _⟩, [("x", 5)]⟩ =
    eval Registry.empty (call "Integral" [binary .add
      (call "INTEGRAL" [variableRef "x" 18, variableRef "x" 21, literal 0, variableRef "y" 27] 9)
      (call "integral" [binary .mul (variableRef "y" 41) (variableRef "z" 43), variableRef "z" 46,
        literal 0, variableRef "y" 52] 32), variableRef "y" 56, variableRef "y" 59, variableRef "x" 62] 0)
      ⟨⟨[], [.ofValue "y" 2], List.pairwise_singleton _ _⟩, [("x", 5)]⟩ := by
  have hregistry : Registry.hasFunction (Registry.empty : Registry Float) integralName = false := rfl
  have hname : Text.sameIgnoringCase "Integral" integralName = true := by decide +kernel
  have hcapitals : isIntegral (Registry.empty : Registry Float) "INTEGRAL" = true :=
    isIntegral_of_sameIgnoringCase hregistry (by decide +kernel)
  have hplain : isIntegral (Registry.empty : Registry Float) "integral" = true :=
    isIntegral_of_sameIgnoringCase hregistry (by decide +kernel)
  have hy : "y" ∉ variableNames (binary .add
      (call "INTEGRAL" [variableRef "x" 18, variableRef "x" 21, literal (0 : Float), variableRef "x" 27] 9)
      (call "integral" [binary .mul (variableRef "x" 41) (variableRef "z" 43), variableRef "z" 46,
        literal 0, variableRef "x" 52] 32)) := by
    simp [variableNames, variableNamesOfEach]
  refine ⟨hregistry, hname, hy, ?_⟩
  rw [eval_integral_renameFree Registry.empty hregistry hname _ _ _ "x" "y" hy 56 56 0,
    renameFree, renameFree_integral "x" "y" hcapitals, renameFree_integral "x" "y" hplain]
  simp only [renameFree, renamed, if_true, String.reduceEq, if_false]

end Expr

end Reckoner
