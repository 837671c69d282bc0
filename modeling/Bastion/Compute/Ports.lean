import Bastion.Rule.Wanted
import Bastion.Text.Split

set_option autoImplicit false

namespace Bastion.Compute

def endOr (start last : List Char) : List Char := if last.isEmpty then start else last

def portEntry (range : List Char) : List Char :=
  let (start, last) := Text.cutChars '/' range
  let last := endOr start last
  if start = last then start else start ++ '-' :: last

def portEntries (range : String) : List String :=
  if range = Rule.allPorts then [] else [String.ofList (portEntry range.toList)]

def entryRange (entry : List Char) : List Char :=
  let (start, last) := Text.cutChars '-' entry
  start ++ '/' :: endOr start last

def portRange : List String → String
  | [] => Rule.allPorts
  | entry :: _ => String.ofList (entryRange entry.toList)

end Bastion.Compute
