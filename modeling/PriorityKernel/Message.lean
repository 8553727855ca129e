import PriorityKernel.Modifiers
import PriorityKernel.TaskId

namespace PriorityKernel

structure KeyPush where
  /-- The modifier keys held, this key included. -/
  modifiers : Modifiers
  /-- The last byte of the key's scan code. -/
  code : UInt8
  /-- The character of the key, 0 for keys without one. -/
  ascii : UInt8
  deriving DecidableEq, Repr

inductive LayerOperation where
  | move
  | moveRelative
  | draw
  | drawArea
  deriving DecidableEq, Repr

structure Rectangle where
  x : Int := 0
  y : Int := 0
  width : Int := 0
  height : Int := 0
  deriving DecidableEq, Repr

/-- A request to the owner of the screen. -/
structure LayerRequest where
  operation : LayerOperation
  layer : Nat
  area : Rectangle
  deriving DecidableEq, Repr

inductive MessageKind where
  /-- A device raised its interrupt and wants to be polled. -/
  | deviceInterrupt
  | timerTimeout (timeout : Nat) (value : Int)
  | keyPush (key : KeyPush)
  | layer (request : LayerRequest)
  | layerFinish
  deriving DecidableEq, Repr

structure Message where
  source : TaskId
  kind : MessageKind
  deriving DecidableEq, Repr

def Message.layerFinish : Message := ⟨TaskId.eventLoop, .layerFinish⟩

def Message.deviceInterrupt : Message := ⟨TaskId.kernel, .deviceInterrupt⟩

def LayerOperation.written : LayerOperation → String
  | .move => "Move"
  | .moveRelative => "MoveRelative"
  | .draw => "Draw"
  | .drawArea => "DrawArea"

def Rectangle.written (area : Rectangle) : String :=
  Record.fields "Rectangle" [("x", toString area.x), ("y", toString area.y),
    ("width", toString area.width), ("height", toString area.height)]

def LayerRequest.written (request : LayerRequest) : String :=
  Record.fields "LayerRequest" [("op", request.operation.written),
    ("layer_id", toString request.layer), ("area", request.area.written)]

def KeyPush.written (key : KeyPush) : String :=
  Record.fields "KeyPush" [("modifier", key.modifiers.written), ("keycode", toString key.code),
    ("ascii", toString key.ascii)]

def MessageKind.written : MessageKind → String
  | .deviceInterrupt => "DeviceInterrupt"
  | .timerTimeout timeout value =>
    Record.fields "TimerTimeout" [("timeout", toString timeout), ("value", toString value)]
  | .keyPush key => Record.wrap "KeyPush" key.written
  | .layer request => Record.wrap "Layer" request.written
  | .layerFinish => "LayerFinish"

def Message.written (message : Message) : String :=
  Record.fields "Message" [("source_task", TaskId.written message.source),
    ("kind", message.kind.written)]

end PriorityKernel
