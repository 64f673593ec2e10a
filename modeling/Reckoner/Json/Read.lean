import Reckoner.Decimal.Numeral
import Reckoner.Json

/-!
# Reading JSON text

The reader accepts one value with blanks around it. Arrays and objects nest to a bounded depth, which
is what the recursion goes down; a reader carries the proof that it uses up a character, which ends
the loops over their members.
-/

namespace Reckoner.Json

/-- Arrays and objects inside one another, at most. -/
def maxNesting : Nat := 127

/-- Reads something from the front of a text and gives the rest back. -/
structure Reader (β : Type) where
  run : List Char → Option (β × List Char)
  progress : ∀ cs x rest, run cs = some (x, rest) → rest.length < cs.length

def isSpace (c : Char) : Bool := c = ' ' || c = '\t' || c = '\n' || c = '\r'

def skip (cs : List Char) : List Char := cs.dropWhile isSpace

theorem length_skip_le (cs : List Char) : (skip cs).length ≤ cs.length :=
  (List.dropWhile_suffix isSpace).length_le

def hexValue? (c : Char) : Option Nat :=
  if c.isDigit then some (c.toNat - '0'.toNat)
  else if 'a' ≤ c ∧ c ≤ 'f' then some (c.toNat - 'a'.toNat + 10)
  else if 'A' ≤ c ∧ c ≤ 'F' then some (c.toNat - 'A'.toNat + 10)
  else none

def unit? (a b c d : Char) : Option Nat := do
  let a ← hexValue? a
  let b ← hexValue? b
  let c ← hexValue? c
  let d ← hexValue? d
  return ((a * 16 + b) * 16 + c) * 16 + d

def isHighHalf (n : Nat) : Bool := 0xD800 ≤ n && n < 0xDC00

def isLowHalf (n : Nat) : Bool := 0xDC00 ≤ n && n < 0xE000

def simpleEscape? (c : Char) : Option Char :=
  match c with
  | '"' => some '"'
  | '\\' => some '\\'
  | '/' => some '/'
  | 'b' => some '\x08'
  | 'f' => some '\x0c'
  | 'n' => some '\n'
  | 'r' => some '\r'
  | 't' => some '\t'
  | _ => none

/-- The characters of a string up to its closing mark. Halves of a pair must come together. -/
def stringTail : List Char → Option (List Char × List Char)
  | [] => none
  | '"' :: rest => some ([], rest)
  | '\\' :: 'u' :: a :: b :: c :: d :: rest =>
    match unit? a b c d with
    | none => none
    | some n =>
      if isLowHalf n then none
      else if isHighHalf n then
        match rest with
        | '\\' :: 'u' :: e :: f :: g :: h :: rest =>
          match unit? e f g h with
          | none => none
          | some m =>
            if isLowHalf m then
              let code := 0x10000 + (n - 0xD800) * 0x400 + (m - 0xDC00)
              (stringTail rest).map fun (cs, rest) => (Char.ofNat code :: cs, rest)
            else none
        | _ => none
      else (stringTail rest).map fun (cs, rest) => (Char.ofNat n :: cs, rest)
  | '\\' :: c :: rest =>
    match simpleEscape? c with
    | none => none
    | some c => (stringTail rest).map fun (cs, rest) => (c :: cs, rest)
  | c :: rest =>
    if c = '\\' ∨ c.toNat < 0x20 then none
    else (stringTail rest).map fun (cs, rest) => (c :: cs, rest)

theorem length_of_stringTail {cs s rest : List Char} (h : stringTail cs = some (s, rest)) :
    rest.length < cs.length := by
  fun_induction stringTail cs generalizing s rest <;>
    simp_all only [Option.map_eq_some_iff, Prod.mk.injEq, Option.some.injEq, reduceCtorEq,
      List.length_cons, Prod.exists] <;> grind

/-- A number: whole if it is written so and fits 64 bits, and otherwise a double. -/
def numberOf? (negative : Bool) (body : List Char) : Option Json :=
  let whole := body.takeWhile Char.isDigit
  let leadingZero := match whole with
    | '0' :: _ :: _ => true
    | _ => false
  let barePoint := match body.dropWhile Char.isDigit with
    | '.' :: c :: _ => !c.isDigit
    | ['.'] => true
    | _ => false
  if whole.isEmpty || leadingZero || barePoint then none
  else
    let n := Decimal.ofDigits 0 whole
    if whole.length = body.length ∧ n < Nat.pow 2 64 ∧ !negative then some (int n)
    else if whole.length = body.length ∧ n ≤ Nat.pow 2 63 ∧ 0 < n ∧ negative then some (int (-(n : Int)))
    else (Decimal.ofNumeral? body).map fun d =>
      let x := d.toFloat
      float (if negative then -x else x)

def isNumberChar (c : Char) : Bool :=
  c.isDigit || c = '.' || c = 'e' || c = 'E' || c = '+' || c = '-'

/-- A value without parts: a word, a string or a number. -/
def scalar (cs : List Char) : Option (Json × List Char) :=
  match cs with
  | 'n' :: 'u' :: 'l' :: 'l' :: rest => some (null, rest)
  | 't' :: 'r' :: 'u' :: 'e' :: rest => some (bool true, rest)
  | 'f' :: 'a' :: 'l' :: 's' :: 'e' :: rest => some (bool false, rest)
  | '"' :: rest => (stringTail rest).map fun (s, rest) => (str (String.ofList s), rest)
  | '-' :: rest =>
    (numberOf? true (rest.takeWhile isNumberChar)).map fun j => (j, rest.dropWhile isNumberChar)
  | c :: rest =>
    if c.isDigit then
      (numberOf? false (c :: rest.takeWhile isNumberChar)).map fun j =>
        (j, rest.dropWhile isNumberChar)
    else none
  | [] => none

theorem length_of_scalar {cs rest : List Char} {j : Json} (h : scalar cs = some (j, rest)) :
    rest.length < cs.length := by
  have drop (cs : List Char) : (cs.dropWhile isNumberChar).length ≤ cs.length :=
    (List.dropWhile_suffix isNumberChar).length_le
  unfold scalar at h
  split at h
  · simp only [Option.some.injEq, Prod.mk.injEq] at h; grind
  · simp only [Option.some.injEq, Prod.mk.injEq] at h; grind
  · simp only [Option.some.injEq, Prod.mk.injEq] at h; grind
  · simp only [Option.map_eq_some_iff, Prod.exists, Prod.mk.injEq] at h
    obtain ⟨s, r, hs, -, rfl⟩ := h
    have := length_of_stringTail hs
    simp only [List.length_cons]
    omega
  · rename_i tail
    simp only [Option.map_eq_some_iff, Prod.mk.injEq] at h
    obtain ⟨j, hj, -, rfl⟩ := h
    have := drop tail
    simp only [List.length_cons]
    omega
  · rename_i tail _ _ _ _ _
    split at h
    · simp only [Option.map_eq_some_iff, Prod.mk.injEq] at h
      obtain ⟨j, hj, -, rfl⟩ := h
      have := drop tail
      simp only [List.length_cons]
      omega
    · simp at h
  · simp at h

/-- One or more members, with commas between them, and the closing mark. -/
def membersFrom {β : Type} (close : Char) (member : Reader β) (cs : List Char) :
    Option (List β × List Char) :=
  match _hmember : member.run cs with
  | none => none
  | some (x, rest) =>
    match _hrest : skip rest with
    | c :: rest' =>
      if c = close then some ([x], rest')
      else if c = ',' then
        (membersFrom close member (skip rest')).map fun (xs, rest) => (x :: xs, rest)
      else none
    | [] => none
termination_by cs.length
decreasing_by
  have h := member.progress _ _ _ _hmember
  have h1 := length_skip_le rest
  have h2 := length_skip_le rest'
  rw [_hrest, List.length_cons] at h1
  omega

theorem length_of_membersFrom {β : Type} {close : Char} {member : Reader β} {cs rest : List Char}
    {xs : List β} (h : membersFrom close member cs = some (xs, rest)) : rest.length < cs.length := by
  fun_induction membersFrom close member cs generalizing xs rest with
  | case1 => simp at h
  | case2 cs x after hmember tail hrest =>
    simp only [Option.some.injEq, Prod.mk.injEq] at h
    have := member.progress _ _ _ hmember
    have := length_skip_le after
    grind
  | case3 cs x after hmember tail hrest hclose ih =>
    simp only [Option.map_eq_some_iff, Prod.exists, Prod.mk.injEq] at h
    obtain ⟨ys, r, hr, -, rfl⟩ := h
    have := ih hr
    have := member.progress _ _ _ hmember
    have := length_skip_le after
    have := length_skip_le tail
    grind
  | case4 => simp at h
  | case5 => simp at h

/-- The members after an opening mark, possibly none. -/
def members {β : Type} (close : Char) (member : Reader β) (cs : List Char) :
    Option (List β × List Char) :=
  match skip cs with
  | [] => none
  | c :: rest => if c = close then some ([], rest) else membersFrom close member (c :: rest)

theorem length_of_members {β : Type} {close : Char} {member : Reader β} {cs rest : List Char}
    {xs : List β} (h : members close member cs = some (xs, rest)) : rest.length < cs.length := by
  have hskip := length_skip_le cs
  unfold members at h
  split at h
  · simp at h
  · rename_i c tail heq
    rw [heq] at hskip
    split at h
    · simp only [Option.some.injEq, Prod.mk.injEq] at h
      grind
    · have := length_of_membersFrom h
      omega

/-- A key, a colon and a value. -/
def field (value : Reader Json) : Reader (String × Json) where
  run
    | '"' :: rest =>
      match stringTail rest with
      | none => none
      | some (key, rest) =>
        match skip rest with
        | ':' :: rest =>
          (value.run (skip rest)).map fun (j, rest) => ((String.ofList key, j), rest)
        | _ => none
    | _ => none
  progress cs x rest h := by
    split at h
    · split at h
      · simp at h
      · rename_i after hkey
        split at h
        · rename_i tail hcolon
          simp only [Option.map_eq_some_iff, Prod.exists, Prod.mk.injEq] at h
          obtain ⟨j, r, hr, -, rfl⟩ := h
          have := length_of_stringTail hkey
          have h1 := length_skip_le after
          have := length_skip_le tail
          have := value.progress _ _ _ hr
          rw [hcolon] at h1
          simp only [List.length_cons] at h1 ⊢
          omega
        · simp at h
    · simp at h

/-- Keeps the last of several fields with one key, at the place of the first. -/
def distinct (fields : List (String × Json)) : List (String × Json) :=
  fields.foldl (fun kept field =>
    if kept.any fun old => old.1 == field.1 then
      kept.map fun old => if old.1 == field.1 then field else old
    else kept ++ [field]) []

/-- A value, given the reader of values one level of nesting down. -/
def valueWithin (inner : Option (Reader Json)) : Reader Json where
  run
    | '[' :: rest =>
      match inner with
      | none => none
      | some inner => (members ']' inner rest).map fun (items, rest) => (arr items, rest)
    | '\x7b' :: rest =>
      match inner with
      | none => none
      | some inner =>
        (members '\x7d' (field inner) rest).map fun (fields, rest) => (obj (distinct fields), rest)
    | cs => scalar cs
  progress cs x rest h := by
    split at h
    · split at h
      · simp at h
      · simp only [Option.map_eq_some_iff, Prod.exists, Prod.mk.injEq] at h
        obtain ⟨items, r, hr, -, rfl⟩ := h
        have := length_of_members hr
        simp only [List.length_cons]
        omega
    · split at h
      · simp at h
      · simp only [Option.map_eq_some_iff, Prod.exists, Prod.mk.injEq] at h
        obtain ⟨fields, r, hr, -, rfl⟩ := h
        have := length_of_members hr
        simp only [List.length_cons]
        omega
    · exact length_of_scalar h

/-- Values that nest at most `levels` levels deep. -/
def value : (levels : Nat) → Reader Json
  | 0 => valueWithin none
  | levels + 1 => valueWithin (some (value levels))

/-- The value that a text spells, if it spells one and nothing else. -/
def read? (text : String) : Option Json :=
  match (value maxNesting).run (skip text.toList) with
  | none => none
  | some (j, rest) => if (skip rest).isEmpty then some j else none

end Reckoner.Json
