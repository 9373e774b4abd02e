import ResourceMeter.Json.Outline
import ResourceMeter.Json.Printer
import ResourceMeter.Text.Quoted

/-!
# Why a JSON text is refused

`Fault` names the reasons for which a text does not hold a value of the wanted type, and
`Fault.message` puts each into words.
-/

namespace ResourceMeter.Json

/-- What stands where something else was wanted. -/
inductive Found where
  | null
  | bool (b : Bool)
  | integer (n : Int)
  | float (x : Float)
  | string (s : String)
  | list
  | object
  /-- The bare name of a variant that carries a value. -/
  | bareVariant
  deriving DecidableEq

/-- What was found, in words. -/
def Found.text : Found → String
  | .null => "null"
  | .bool b => "boolean \x60" ++ (if b then "true" else "false") ++ "\x60"
  | .integer n => "integer \x60" ++ toString n ++ "\x60"
  | .float x => "floating point \x60" ++ floatText x ++ "\x60"
  | .string s => "string " ++ Text.quoted s
  | .list => "sequence"
  | .object => "map"
  | .bareVariant => "unit variant"

/-- Why a text is refused. -/
inductive Fault where
  /-- The text is not JSON, or holds more than the wanted value. -/
  | malformed
  | missingField (name : String)
  | duplicateField (name : String)
  | wrongType (found : Found) (wanted : String)
  | wrongValue (found : Found) (wanted : String)
  | wrongLength (length : Nat) (wanted : String)
  | unknownVariant (name : String) (known : List String)
  /-- The value is of the wanted type but breaks a rule, stated in the reason. -/
  | rejected (reason : String)
  deriving DecidableEq

namespace Fault

/-- A name between backquotes. -/
def ticked (name : String) : String :=
  "\x60" ++ name ++ "\x60"

/-- The reason in words. -/
def message : Fault → String
  | .malformed => "JSON syntax error"
  | .missingField name => "missing field " ++ ticked name
  | .duplicateField name => "duplicate field " ++ ticked name
  | .wrongType found wanted => "invalid type: " ++ found.text ++ ", expected " ++ wanted
  | .wrongValue found wanted => "invalid value: " ++ found.text ++ ", expected " ++ wanted
  | .wrongLength length wanted => "invalid length " ++ toString length ++ ", expected " ++ wanted
  | .unknownVariant name known =>
    "unknown variant " ++ ticked name ++ ", expected one of " ++
      ", ".intercalate (known.map ticked)
  | .rejected reason => reason

end Fault

/-- What a token that starts a value shows to a reader that wanted something else. -/
def Found.ofToken : Token → Except Fault Found
  | .openList => .ok .list
  | .openObject => .ok .object
  | .null => .ok .null
  | .bool b => .ok (.bool b)
  | .string s => .ok (.string s)
  | .number n =>
    match n.kind with
    | .count k => .ok (.integer k)
    | .negative k => .ok (.integer (-k))
    | .float x => .ok (.float x)
    | .outOfRange => .error .malformed
  | .closeList | .closeObject | .comma | .colon | .brokenString | .bad => .error .malformed

/-- What an outline shows to a reader that wanted something else. Of a container only its start is
looked at. -/
def Found.ofOutline : Outline → Except Fault Found
  | .leaf token => Found.ofToken token
  | .list _ => .ok .list
  | .object _ => .ok .object

/-- The fault of an outline where something else was wanted. -/
def Fault.unexpected (outline : Outline) (wanted : String) : Fault :=
  match Found.ofOutline outline with
  | .ok found => .wrongType found wanted
  | .error fault => fault

end ResourceMeter.Json
