import OfficeSchema.Json.Basic

/-!
Records in JSON. A record is an object whose fields have names, or an array of its fields in order.
Names that are not fields are passed over in an object, but no field may stand there twice; an
array may end early only before fields that have a default.
-/

namespace OfficeSchema.Json

structure Field where
  name : String
  hasDefault : Bool
  deriving DecidableEq, Repr

abbrev Record := List (String × Json)

def named? : List (Option String × Json) → Option Record
  | [] => some []
  | (some name, j) :: ms => (named? ms).map ((name, j) :: ·)
  | (none, _) :: _ => none

/-- The members that are fields, unless one is given twice. -/
def known? (fields : List Field) (r : Record) : Option Record :=
  let known := r.filter (fun m => fields.any (fun f => f.name == m.1))
  if (known.map Prod.fst).Nodup then some known else none

def object? (fields : List Field) : Json → Option Record
  | .object members => (named? members).bind (known? fields)
  | _ => none

def record? (fields : List Field) : Json → Option Record
  | .array items =>
      if items.length ≤ fields.length && (fields.drop items.length).all Field.hasDefault then
        some ((fields.map Field.name).zip items)
      else none
  | j => j.object? fields

namespace Record

variable {α : Type}

def needed (r : Record) (name : String) (view : Json → Option α) : Option α :=
  (r.lookup name).bind view

def defaulted (r : Record) (name : String) (default : α) (view : Json → Option α) : Option α :=
  match r.lookup name with
  | some j => view j
  | none => some default

def optional (r : Record) (name : String) (view : Json → Option α) : Option (Option α) :=
  match r.lookup name with
  | none => some none
  | some .null => some none
  | some j => (view j).map some

end Record

end OfficeSchema.Json
