namespace PriorityKernel.Record

/-- A record with named fields, each already in written form. -/
def fields (name : String) (parts : List (String × String)) : String :=
  name ++ " \x7b " ++ ", ".intercalate (parts.map fun part => part.1 ++ ": " ++ part.2) ++ " \x7d"

def wrap (name value : String) : String := name ++ "(" ++ value ++ ")"

def list (parts : List String) : String := "[" ++ ", ".intercalate parts ++ "]"

end PriorityKernel.Record
