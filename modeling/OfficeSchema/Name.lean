import OfficeSchema.Error

namespace OfficeSchema.Name

/-- Letters that may start a name: those up to U+02FF, and the low line. -/
def isStart (c : Char) : Bool :=
  let n := c.toNat
  (0x41 ≤ n && n ≤ 0x5A) || c == '_' || (0x61 ≤ n && n ≤ 0x7A) ||
    (0xC0 ≤ n && n ≤ 0xD6) || (0xD8 ≤ n && n ≤ 0xF6) || (0xF8 ≤ n && n ≤ 0x2FF)

def isFollow (c : Char) : Bool :=
  isStart c || c == '-' || c == '.' || c.isDigit || c.toNat == 0xB7

def isValidChars : List Char → Bool
  | [] => false
  | c :: r => isStart c && r.all isFollow

def isValid (name : String) : Bool := isValidChars name.toList

def validate (name : String) : Except Error Unit :=
  if isValid name then .ok () else .error (.invalidName name)

theorem validate_ok_iff (name : String) : validate name = .ok () ↔ isValid name = true := by
  simp only [validate]
  split <;> simp_all

end OfficeSchema.Name
