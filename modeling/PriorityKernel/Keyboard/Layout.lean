import PriorityKernel.Modifiers

namespace PriorityKernel

/-- The three pages of scan codes: plain ones, and those announced by `E0` or `E1`. -/
inductive ScanPage where
  | plain
  | extended
  | extendedTwice
  deriving DecidableEq, Repr

inductive KeyCap where
  | letter (small : Char)
  /-- One character without shift and another with it. -/
  | pair (plain shifted : Char)
  /-- The same character always. -/
  | fixed (char : Char)
  /-- A character while num lock is on, and another code otherwise. -/
  | numeric (char : Char) (otherwise : UInt8)
  | modifier (key : Modifiers)
  | capsLock
  | numLock
  /-- The control key in front of the pause key, which keeps num lock as it is. -/
  | pauseControl
  | silent
  deriving DecidableEq, Repr

namespace KeyCap

/-- A row of letter keys, from the code of the first one on. -/
def letters (first : UInt8) (row : String) : List (UInt8 × KeyCap) :=
  row.toList.zipIdx.map fun key => (first + UInt8.ofNat key.2, letter key.1)

/-- A row of keys with a shifted character each, from the code of the first one on. -/
def pairs (first : UInt8) (row shifted : String) : List (UInt8 × KeyCap) :=
  (row.toList.zip shifted.toList).zipIdx.map fun key =>
    (first + UInt8.ofNat key.2, pair key.1.1 key.1.2)

/-- A row of number pad keys, from the code of the first one on. -/
def numerics (first : UInt8) (row : String) : List (UInt8 × KeyCap) :=
  row.toList.zipIdx.map fun key => (first + UInt8.ofNat key.2, numeric key.1 0)

def silents (codes : List UInt8) : List (UInt8 × KeyCap) := codes.map (·, silent)

def plainPage : List (UInt8 × KeyCap) :=
  [(0x01, fixed '\x1b')] ++
  pairs 0x02 "1234567890-=" "!@#$%^&*()_+" ++
  [(0x0E, fixed '\x08'), (0x0F, fixed '\t')] ++
  letters 0x10 "qwertyuiop" ++
  pairs 0x1A "[]" "\x7b\x7d" ++
  [(0x1C, fixed '\n'), (0x1D, modifier .leftControl)] ++
  letters 0x1E "asdfghjkl" ++
  pairs 0x27 ";'`" ":\"~" ++
  [(0x2A, modifier .leftShift), (0x2B, silent)] ++
  letters 0x2C "zxcvbnm" ++
  pairs 0x33 ",./" "<>?" ++
  [(0x36, modifier .rightShift), (0x37, fixed '*'), (0x38, modifier .leftAlt), (0x39, fixed ' '),
   (0x3A, capsLock)] ++
  silents [0x3B, 0x3C, 0x3D, 0x3E, 0x3F, 0x40, 0x41, 0x42, 0x43, 0x44] ++
  [(0x45, numLock), (0x46, silent)] ++
  numerics 0x47 "789" ++
  [(0x4A, fixed '-'), (0x4B, numeric '4' 0), (0x4C, fixed '5'), (0x4D, numeric '6' 0),
   (0x4E, fixed '+')] ++
  numerics 0x4F "1230" ++
  [(0x53, numeric '.' 127), (0x54, silent), (0x56, pair '\\' '|'), (0x57, silent), (0x58, silent)]

def extendedPage : List (UInt8 × KeyCap) :=
  silents [0x10, 0x19, 0x20, 0x21, 0x22, 0x24, 0x2A, 0x2E, 0x30, 0x32, 0x37, 0x47, 0x48, 0x49, 0x4B,
    0x4D, 0x4F, 0x50, 0x51, 0x52, 0x5D, 0x70, 0x73, 0x79, 0x7B, 0x7D] ++
  [(0x1C, fixed '\n'), (0x1D, modifier .rightControl), (0x35, fixed '/'),
   (0x38, modifier .rightAlt), (0x53, fixed '\x7f'), (0x5B, modifier .leftGui),
   (0x5C, modifier .rightGui)]

def extendedTwicePage : List (UInt8 × KeyCap) := [(0x1D, pauseControl)]

/-- The key with a code on a page, if there is one. -/
def find? (page : ScanPage) (code : UInt8) : Option KeyCap :=
  (match page with
    | .plain => plainPage
    | .extended => extendedPage
    | .extendedTwice => extendedTwicePage).lookup code

end KeyCap

end PriorityKernel
