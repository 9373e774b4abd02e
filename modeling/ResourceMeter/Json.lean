/-!
# JSON values

`Json` is what the program writes. A number is a count or a binary64 number; an object keeps the
order of its members.
-/

namespace ResourceMeter

/-- A JSON value to be written. -/
inductive Json where
  | null
  | bool (b : Bool)
  | count (n : Nat)
  | float (x : Float)
  | string (s : String)
  | list (items : List Json)
  | object (members : List (String × Json))

end ResourceMeter
