import OfficeSchema.Text.Blank

namespace OfficeSchema

inductive Version where
  | office2007
  | office2010
  | office2013
  | office2016
  | office2019
  | office2021
  | microsoft365
  deriving DecidableEq, Repr, Inhabited

namespace Version

def all : List Version :=
  [.office2007, .office2010, .office2013, .office2016, .office2019, .office2021, .microsoft365]

theorem mem_all (v : Version) : v ∈ all := by
  cases v <;> simp [all]

def index : Version → Nat
  | .office2007 => 0
  | .office2010 => 1
  | .office2013 => 2
  | .office2016 => 3
  | .office2019 => 4
  | .office2021 => 5
  | .microsoft365 => 6

theorem index_injective {v w : Version} (h : v.index = w.index) : v = w := by
  cases v <;> cases w <;> first | rfl | simp [index] at h

def name : Version → String
  | .office2007 => "Office2007"
  | .office2010 => "Office2010"
  | .office2013 => "Office2013"
  | .office2016 => "Office2016"
  | .office2019 => "Office2019"
  | .office2021 => "Office2021"
  | .microsoft365 => "Microsoft365"

def includes (v since : Version) : Bool := since.index ≤ v.index

theorem includes_refl (v : Version) : v.includes v = true := by
  simp [includes]

theorem includes_trans {u v w : Version} (h : u.includes v = true) (k : v.includes w = true) :
    u.includes w = true := by
  simp only [includes, decide_eq_true_eq] at *
  exact Nat.le_trans k h

/-- An ungated thing exists in every version. -/
def allows (v : Version) : Option Version → Bool
  | none => true
  | some gate => v.includes gate

def ofLabel? : String → Option Version
  | "2007" => some .office2007
  | "2010" => some .office2010
  | "2013" => some .office2013
  | "2016" => some .office2016
  | "2019" => some .office2019
  | "2021" => some .office2021
  | "microsoft365" => some .microsoft365
  | "m365" => some .microsoft365
  | "365" => some .microsoft365
  | _ => none

def ofText? (s : String) : Option Version :=
  let low := (Text.trim s.toList).map Char.toLower
  ofLabel? (String.ofList ((Text.stripped? "office".toList low).getD low))

end Version

/-- Document families; a rule of one family is silent in another. -/
inductive Family where
  | word
  | spreadsheet
  | presentation
  | all
  deriving DecidableEq, Repr, Inhabited

namespace Family

def name : Family → String
  | .word => "word"
  | .spreadsheet => "spreadsheet"
  | .presentation => "presentation"
  | .all => "all"

def ofName? : String → Option Family
  | "word" => some .word
  | "spreadsheet" => some .spreadsheet
  | "presentation" => some .presentation
  | "all" => some .all
  | _ => none

theorem ofName?_name (f : Family) : ofName? f.name = some f := by
  cases f <;> rfl

def appliesTo (f target : Family) : Bool := f == .all || target == .all || f == target

theorem appliesTo_comm (f g : Family) : f.appliesTo g = g.appliesTo f := by
  cases f <;> cases g <;> rfl

end Family

end OfficeSchema
