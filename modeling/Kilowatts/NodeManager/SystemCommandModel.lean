import Kilowatts.Library.CharBuffer
import Kilowatts.LoadManager.Load

namespace kilowatts

/-- A request to change a load, with a flag for each field that it sets. -/
structure LoadCommandRequest where
  nodeMacAddress : MacAddress
  relayPin : UInt8
  hasPriority : Bool
  priority : UInt16
  hasMode : Bool
  mode : LoadMode
  hasSchedule : Bool
  schedule : AutoSchedule
deriving DecidableEq

/-- What a handler returns to the task that called it. -/
structure CommandResult where
  accepted : Bool
  completed : Bool
  reason : String
deriving DecidableEq

/-- The actions of a system command. -/
inductive SystemCommandAction where
  | UNKNOWN
  | REQUEST_OPTIMIZATION_CYCLE
  | FACTORY_RESET_CENTRAL
  | FACTORY_RESET_NODE
  | SET_OPTIMIZER_INTERVAL
  | REPORT_OPTIMIZER_INTERVAL
  | REBOOT_CENTRAL
deriving DecidableEq

/-- A system command, with a flag for each field that may be missing. -/
structure SystemCommandRequest where
  commandId : UInt32
  action : SystemCommandAction
  confirmText : CharBuffer 32
  targetNodeMacAddress : MacAddress
  hasTargetNodeMacAddress : Bool
  hasOptimizerIntervalSeconds : Bool
  optimizerIntervalSeconds : UInt32
deriving DecidableEq

end kilowatts
