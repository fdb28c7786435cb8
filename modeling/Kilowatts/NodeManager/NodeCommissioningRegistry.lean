import Kilowatts.Library.KeyedList
import Kilowatts.LoadManager.Load

namespace kilowatts

/-- Its two values, and the bytes that a record from the flash puts into it. -/
inductive NodeRole where
  | CENTRAL
  | SMART
  | undeclared (byte : UInt8) (hbyte : 1 < byte)

instance : DecidableEq NodeRole
  | .CENTRAL, .CENTRAL => isTrue rfl
  | .SMART, .SMART => isTrue rfl
  | .undeclared first _, .undeclared second _ =>
    decidable_of_iff (first = second) (NodeRole.undeclared.injEq ..).symm.to_iff
  | .CENTRAL, .SMART | .CENTRAL, .undeclared .. => isFalse nofun
  | .SMART, .CENTRAL | .SMART, .undeclared .. => isFalse nofun
  | .undeclared .., .CENTRAL | .undeclared .., .SMART => isFalse nofun

/-- The states of a Node; a byte above the last one is kept as it is. -/
inductive NodeLifecycleState where
  | FACTORY
  | UNCOMMISSIONED
  | DISCOVERED
  | CONFIGURING
  | COMMISSIONED
  | OPERATIONAL
  | DECOMMISSIONED
  | undeclared (byte : UInt8) (hbyte : 6 < byte)
deriving DecidableEq

/-- The two states in which Central uses a Node's loads. -/
def isCommissionedLifecycle (state : NodeLifecycleState) : Bool :=
  state = .COMMISSIONED || state = .OPERATIONAL

/-- The transitions that `NodeLifecycle` allows. -/
def isValidNodeLifecycleTransition (source destination : NodeLifecycleState) : Bool :=
  match source with
  | .FACTORY => destination = .UNCOMMISSIONED
  | .UNCOMMISSIONED => destination = .DISCOVERED || destination = .CONFIGURING || destination = .DECOMMISSIONED
  | .DISCOVERED => destination = .CONFIGURING || destination = .DECOMMISSIONED
  | .CONFIGURING => destination = .COMMISSIONED || destination = .UNCOMMISSIONED || destination = .DECOMMISSIONED
  | .COMMISSIONED => destination = .OPERATIONAL || destination = .DECOMMISSIONED
  | .OPERATIONAL => destination = .DECOMMISSIONED
  | .DECOMMISSIONED => destination = .UNCOMMISSIONED
  | .undeclared _ _ => false

/-- The fields of a record that planning reads. -/
structure CommissioningRecord where
  macAddress : MacAddress
  role : NodeRole
  lifecycleState : NodeLifecycleState
deriving DecidableEq

/-- Central's record of every Node's identity. -/
structure NodeCommissioningRegistry where
  records : List CommissioningRecord

namespace NodeCommissioningRegistry

/-- The record with this MAC, if there is one. -/
def findByMac (registry : NodeCommissioningRegistry) (macAddress : MacAddress) : Option CommissioningRecord :=
  KeyedList.lookup CommissioningRecord.macAddress registry.records macAddress

/-- A Node without a record is not commissioned. -/
def isCommissionedSmartNode (registry : NodeCommissioningRegistry) (macAddress : MacAddress) : Bool :=
  match registry.findByMac macAddress with
  | none => false
  | some record => record.role = .SMART && isCommissionedLifecycle record.lifecycleState

/-- Needs a record from which the transition is allowed. -/
def decommission (registry : NodeCommissioningRegistry) (macAddress : MacAddress) :
    NodeCommissioningRegistry × Bool :=
  match registry.findByMac macAddress with
  | none => (registry, false)
  | some record =>
    if !isValidNodeLifecycleTransition record.lifecycleState .DECOMMISSIONED then (registry, false)
    else
      ({ records := KeyedList.update CommissioningRecord.macAddress macAddress
          (fun record => { record with lifecycleState := .DECOMMISSIONED }) registry.records }, true)

end NodeCommissioningRegistry

end kilowatts
