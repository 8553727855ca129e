namespace PriorityKernel.Hex

def digit (value : Nat) : Char :=
  "0123456789abcdef".toList.getD value '0'

/-- A byte with its two digits, after `0x`. -/
def byte (value : UInt8) : String :=
  "0x" ++ String.ofList [digit (value.toNat / 16), digit (value.toNat % 16)]

end PriorityKernel.Hex
