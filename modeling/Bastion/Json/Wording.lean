import Bastion.Binary64.Shortest
import Bastion.Json.Printer
import Bastion.Text.Quoted

set_option autoImplicit false

namespace Bastion.Json

def scalarWording : Json → String
  | .null => "None"
  | .bool value => if value then "True" else "False"
  | .int value => String.ofList (writeInt value)
  | .float .nan => "nan"
  | .float (.infinity negative) => if negative then "-inf" else "inf"
  | .float value => String.ofList value.text
  | .string value => Text.quoted value
  | _ => ""

mutual

def innerWording : Json → String
  | .array items => "[" ++ String.intercalate ", " (itemWordings items) ++ "]"
  | .object members => "\x7b" ++ String.intercalate ", " (memberWordings members) ++ "\x7d"
  | scalar => scalarWording scalar

def itemWordings : List Json → List String
  | [] => []
  | item :: items => innerWording item :: itemWordings items

def memberWordings : List (String × Json) → List String
  | [] => []
  | (name, value) :: members =>
    (Text.quoted name ++ ": " ++ innerWording value) :: memberWordings members

end

def wording : Json → String
  | .string value => value
  | value => innerWording value

end Bastion.Json
