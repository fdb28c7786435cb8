import Kilowatts.NodeManager.NodeLoadHardwareStore

namespace kilowatts

/-- What a Smart Node writes into its report about a load. -/
def LoadReportPacket.ofLoad (load : Load) : LoadReportPacket where
  name := LoadReportPacket.zero.name.print load.name
  relayPin := load.getRelayPin
  mode := load.mode.toByte
  powerType := load.powerType.toByte
  priority := load.priority
  powerRatingWatts := .finite load.powerRatingWatts
  scheduleEnabled := if load.schedule.enabled then 1 else 0
  scheduleStartHour := load.schedule.startHour
  scheduleStartMinute := load.schedule.startMinute
  scheduleEndHour := load.schedule.endHour
  scheduleEndMinute := load.schedule.endMinute

@[simp] theorem LoadReportPacket.ofLoad_schedule (load : Load) : (ofLoad load).schedule = load.schedule := by
  have hbyte : ∀ flag : Bool, ((if flag then 1 else 0 : UInt8) != 0) = flag := by decide
  simp only [schedule, ofLoad, hbyte, AutoSchedule.make_self]

/-- A Smart Node's `Node` together with its `NodeLoadHardwareStore`, whose
configurations belong to the same loads in the same order. No more loads are
configured than a report can hold, and Central accepts the report of each. -/
@[ext]
structure SmartNode where
  node : Node
  loads_le : node.loads.length ≤ MAX_LOADS_PER_NODE
  reportable : ∀ load ∈ node.loads, (LoadReportPacket.ofLoad load).validLoadReport = true

namespace LoadConfiguration

/-- What a Smart Node accepts as a configuration, Central accepts as a report. -/
theorem load_reportable {configuration : LoadConfiguration} (hwellFormed : configuration.isWellFormed = true)
    (macAddress : MacAddress) :
    (LoadReportPacket.ofLoad (configuration.load macAddress)).validLoadReport = true := by
  simp only [isWellFormed, Bool.and_eq_true, decide_eq_true_eq, bne_iff_ne] at hwellFormed
  obtain ⟨⟨⟨⟨⟨hpositive, hlength⟩, hmode⟩, hpowerType⟩, hpriority⟩, hschedule⟩ := hwellFormed
  obtain ⟨rating, hnonneg, hload⟩ := load_eq hschedule macAddress
  have hname : (LoadReportPacket.zero.name.print configuration.name.text).boundedLength =
      configuration.name.boundedLength := by
    rw [CharBuffer.boundedLength, CharBuffer.print_text (by decide) configuration.name.zero_notMem_text,
      List.length_take]
    exact Nat.min_eq_right (Nat.le_of_lt_succ hlength)
  have hmodeByte : LoadReportPacket.validMode configuration.mode.toByte = true := by
    cases hvalue : configuration.mode with
    | undeclared byte hbyte =>
      rw [hvalue] at hmode
      cases hmode
    | _ => rfl
  have hpowerTypeByte : LoadReportPacket.validPowerType configuration.powerType.toByte = true := by
    cases hvalue : configuration.powerType with
    | undeclared byte hbyte =>
      rw [hvalue] at hpowerType
      cases hpowerType
    | _ => rfl
  have hscheduleValid : (LoadReportPacket.ofLoad (configuration.load macAddress)).validSchedule = true := by
    rw [LoadReportPacket.validSchedule_eq, LoadReportPacket.ofLoad_schedule, hload]
    dsimp only
    split
    · exact hschedule
    · rfl
  rw [LoadReportPacket.validLoadReport, hscheduleValid, hload]
  simp [LoadReportPacket.ofLoad, hname, hmodeByte, hpowerTypeByte, hpriority, LoadReportPacket.validPowerRating, hnonneg,
    Nat.pos_of_ne_zero hpositive, hlength]

end LoadConfiguration

/-- The answers of the relay hardware and of the flash to one change. -/
structure HardwareAnswers where
  relay : Bool
  persisted : Bool

namespace SmartNode

open HardwareConfigurationFailureReason

/-- `isValidNewConfiguration`, with its failure reason. -/
def isValidNewConfiguration (smartNode : SmartNode) (configuration : LoadConfiguration) :
    HardwareConfigurationFailureReason :=
  if !configuration.isWellFormed then INVALID_CONFIGURATION
  else if !LoadReportPacket.validPowerRating configuration.powerRatingWatts then INVALID_POWER_RATING
  else if smartNode.node.loads.length ≥ MAX_LOADS_PER_NODE then CAPACITY_REACHED
  else if (smartNode.node.getLoadByRelayPin configuration.relayPin).isSome then DUPLICATE_RELAY_PIN
  else NONE

theorem isValidNewConfiguration_eq_none {smartNode : SmartNode} {configuration : LoadConfiguration}
    (hvalid : smartNode.isValidNewConfiguration configuration = NONE) :
    configuration.isWellFormed = true ∧ smartNode.node.loads.length < MAX_LOADS_PER_NODE := by
  unfold isValidNewConfiguration at hvalid
  split at hvalid
  · cases hvalid
  rename_i hwellFormed
  split at hvalid
  · cases hvalid
  split at hvalid
  · cases hvalid
  rename_i hroom
  exact ⟨by simpa using hwellFormed, Nat.not_le.mp hroom⟩

/-- The load is appended when nothing stands against it, and taken back when it
cannot be persisted. -/
def configureNewLoad (smartNode : SmartNode) (configuration : LoadConfiguration) (answers : HardwareAnswers) :
    SmartNode × HardwareConfigurationFailureReason :=
  if hvalid : smartNode.isValidNewConfiguration configuration = NONE then
    if !answers.relay then (smartNode, HARDWARE_INITIALIZATION_FAILED)
    else if !answers.persisted then (smartNode, PERSISTENCE_FAILED)
    else
      ({ node := (smartNode.node.addLoad (configuration.load smartNode.node.macAddress)).1
         loads_le := by
           have hroom := (isValidNewConfiguration_eq_none hvalid).2
           obtain hsame | hnew := smartNode.node.addLoad_loads_cases (configuration.load smartNode.node.macAddress)
           · rw [hsame]
             omega
           · rw [hnew, List.length_append, List.length_singleton]
             omega
         reportable := by
           intro load hload
           obtain hsame | hnew := smartNode.node.addLoad_loads_cases (configuration.load smartNode.node.macAddress)
           · exact smartNode.reportable load (hsame ▸ hload)
           · rw [hnew, List.mem_append, List.mem_singleton] at hload
             obtain hold | rfl := hload
             · exact smartNode.reportable load hold
             · exact LoadConfiguration.load_reportable (isValidNewConfiguration_eq_none hvalid).1 _ }, NONE)
  else (smartNode, smartNode.isValidNewConfiguration configuration)

/-- The load is erased once its relay is OFF and the flash agrees. -/
def removeLoad (smartNode : SmartNode) (relayPin : UInt8) (answers : HardwareAnswers) :
    SmartNode × HardwareConfigurationFailureReason :=
  if (smartNode.node.getLoadByRelayPin relayPin).isNone then (smartNode, INVALID_CONFIGURATION)
  else if !answers.relay then (smartNode, HARDWARE_INITIALIZATION_FAILED)
  else if !answers.persisted then (smartNode, PERSISTENCE_FAILED)
  else
    ({ node := (smartNode.node.removeLoadByRelayPin relayPin).1
       loads_le := ((KeyedList.remove_sublist _ _).length_le).trans smartNode.loads_le
       reportable := fun load hload =>
         smartNode.reportable load ((KeyedList.remove_sublist _ _).mem hload) }, NONE)

/-- `consoleSmartUpdateLoad` under `nodeMutex`: the load is removed and configured
anew, so it moves to the end of the list. `updated` is the stored configuration of
the load with the requested fields replaced. -/
def updateLoad (smartNode : SmartNode) (relayPin : UInt8) (updated : LoadConfiguration)
    (removing configuring : HardwareAnswers) : SmartNode :=
  if (smartNode.node.getLoadByRelayPin relayPin).isNone then smartNode
  else ((smartNode.removeLoad relayPin removing).1.configureNewLoad updated configuring).1

end SmartNode

end kilowatts
