/-!
# Fields of records

A record is read from its fields, which have names. A field with a default may be missing.
-/
namespace BlinkBench

variable {ν α : Type}

/-- A field that has to be there. -/
def field? (fields : List (String × ν)) (name : String) (read? : ν → Option α) : Option α := do
  read? (← fields.lookup name)

/-- A field with a default. -/
def fieldOr? (fields : List (String × ν)) (name : String) (read? : ν → Option α) (default : α) :
    Option α :=
  match fields.lookup name with
  | some v => read? v
  | none => some default

end BlinkBench
