import Reckoner.Json

/-!
# Records in JSON

A record is an object, or an array of its fields in order. Fields that a record does not know are
passed over in an object; an array may stop early but not go on too long.
-/

namespace Reckoner.Json

/-- The fields of a record as they were found. -/
structure Record where
  fields : List (String × Json)
  /-- The record was written as an array. -/
  positional : Bool

/-- The fields of a record with the given names. -/
def record? (names : List String) : Json → Option Record
  | obj fields => some ⟨fields, false⟩
  | arr items => if items.length ≤ names.length then some ⟨names.zip items, true⟩ else none
  | _ => none

namespace Record

variable {β : Type}

def get? (r : Record) (key : String) : Option Json := r.fields.lookup key

/-- A field that must be there. -/
def required (r : Record) (key : String) (decode : Json → Option β) : Option β :=
  (r.get? key).bind decode

/-- A field with a value of its own when it is missing. -/
def withDefault (r : Record) (key : String) (decode : Json → Option β) (missing : β) : Option β :=
  match r.get? key with
  | some j => decode j
  | none => some missing

/-- A field that may be missing from an object, and may be `null`. -/
def nullable (r : Record) (key : String) (decode : Json → Option β) : Option (Option β) :=
  match r.get? key with
  | some j => optional? decode j
  | none => if r.positional then none else some none

/-- A field that may be missing from any record, and may be `null`. -/
def omissible (r : Record) (key : String) (decode : Json → Option β) : Option (Option β) :=
  r.withDefault key (optional? decode) none

end Record

end Reckoner.Json
