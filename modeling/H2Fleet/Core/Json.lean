import Mathlib.Data.Rat.Floor

/-!
# JSON values

What a decoder makes of a text.  The members of an object stand in the order of the text, repeated
ones included, since decoders differ in what they do with them.
-/

namespace H2Fleet

inductive Json where
  | null
  | bool (b : Bool)
  | num (x : ℚ)
  | str (s : String)
  | arr (items : List Json)
  | obj (members : List (String × Json))

/-- The value of a member: the last one counts, in Python and in JavaScript. -/
def lastMember (members : List (String × Json)) (name : String) : Option Json :=
  members.foldl (fun found m => if m.1 = name then some m.2 else found) none

/-- `bool(…)` of Python. -/
def Json.truthy : Json → Bool
  | .null => false
  | .bool b => b
  | .num x => x ≠ 0
  | .str s => s ≠ ""
  | .arr items => !items.isEmpty
  | .obj members => !members.isEmpty

def Json.isNull : Json → Bool
  | .null => true
  | _ => false

/-- `… === true` of JavaScript. -/
def Json.isTrue : Json → Bool
  | .bool b => b
  | _ => false

end H2Fleet
