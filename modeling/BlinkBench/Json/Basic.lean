/-!
# JSON values

The values that JSON texts spell. Objects keep the order and the repetitions of their members.
Numbers are kept as text unless they are plain non-negative integers, which are all that is used
here.
-/
namespace BlinkBench

/-- A JSON value. -/
inductive Json where
  | null
  | bool (b : Bool)
  /-- A number written with digits only. -/
  | nat (n : Nat)
  /-- Any other number, as it is written. -/
  | numeral (text : String)
  | str (s : String)
  /-- A string with half of a surrogate pair, or an object with such a key. It stands for no
  text, so nothing can be read from it, but it may stand where nothing is read. -/
  | unpaired
  | arr (items : List Json)
  | obj (members : List (String × Json))
deriving Repr, BEq, Inhabited

end BlinkBench
