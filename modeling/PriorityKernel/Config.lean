namespace PriorityKernel.Config

/-- Frequency of the periodic timer interrupt, in Hz. -/
def timerFrequency : Nat := 100

/-- Ticks between two scheduling timeouts, 20 ms at `timerFrequency`. -/
def schedulerPeriod : Nat := timerFrequency * 20 / 1000

/-- The tag reserved for the recurring scheduling timeout, the least 32-bit value. -/
def schedulerTag : Int := -2147483648

/-- The tag of the sentinel, the timer that keeps the timer queue non-empty. -/
def sentinelTag : Int := -1

/-- The last tick a 64-bit clock can count, and the timeout of the sentinel. -/
def lastTick : Nat := UInt64.size - 1

def stackBytes : Nat := 4096

def wordBytes : Nat := 8

def maxLevel : Nat := 3

/-- The number of ready queues, one for each level. -/
abbrev levelCount : Nat := 4

def idleLevel : Nat := 0

def defaultLevel : Nat := 1

/-- The flags register of a new task: interrupts enabled, and the bit that is always set. -/
def initialFlags : UInt64 := 0x202

/-- The floating-point control word of a new task: every exception masked. -/
def initialMxcsr : UInt32 := 0x1F80

abbrev floatImageBytes : Nat := 512

/-- Where the floating-point control word lies in the saved image. -/
abbrev mxcsrOffset : Nat := 24

def heapBytes : Nat := 1024 * 1024

def heapUsed : Nat := 4096

/-- Input clock of the interval timer, in Hz. -/
def intervalClock : Nat := 1193182

def firstVector : UInt8 := 32

def secondVector : UInt8 := firstVector + 8

def timerLine : UInt8 := 0

def keyboardLine : UInt8 := 1

def timerVector : UInt8 := firstVector + timerLine

def keyboardVector : UInt8 := firstVector + keyboardLine

def blinkTag : Int := 1

/-- Ticks between two blinks, half a second at `timerFrequency`. -/
def blinkInterval : Nat := timerFrequency / 2

/-- The layer that the drawing task repaints. -/
def demoLayer : Nat := 1

/-- Most scan codes taken from the keyboard controller in one go. -/
def scanBurst : Nat := 32

end PriorityKernel.Config
