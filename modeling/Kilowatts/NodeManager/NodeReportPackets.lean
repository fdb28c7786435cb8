import Kilowatts.Library.CharBuffer
import Kilowatts.LoadManager.Load

namespace kilowatts

def MAX_LOADS_PER_NODE_PACKET : Nat := 4

def MAX_LOADS_PER_NODE : Nat := 16

/-- One load reported by a Smart Node. -/
structure LoadReportPacket where
  name : CharBuffer 16
  relayPin : UInt8
  mode : UInt8
  powerType : UInt8
  priority : UInt16
  powerRatingWatts : CFloat
  scheduleEnabled : UInt8
  scheduleStartHour : UInt8
  scheduleStartMinute : UInt8
  scheduleEndHour : UInt8
  scheduleEndMinute : UInt8
deriving DecidableEq

/-- One page of a Node report. -/
structure NodeReportPacket where
  nodeName : CharBuffer 20
  nodeMacAddress : MacAddress
  upstreamNodeMacAddress : MacAddress
  hopCountToCentral : UInt16
  numberOfLoads : UInt8
  reportSequenceId : UInt16
  pageIndex : UInt8
  totalPages : UInt8
  loads : Vector LoadReportPacket MAX_LOADS_PER_NODE_PACKET
deriving DecidableEq

inductive NodeReportAckStatus where
  | ACCEPTED
  | REJECTED
deriving DecidableEq

namespace LoadReportPacket

/-- A zero-initialised `LoadReportPacket`. -/
def zero : LoadReportPacket := ⟨.zero, 0, 0, 0, 0, .finite 0, 0, 0, 0, 0, 0⟩

/-- The `loads` of a packet after the given reports were written to it. -/
def packed (reports : List LoadReportPacket) : Vector LoadReportPacket MAX_LOADS_PER_NODE_PACKET :=
  Vector.ofFn fun index => reports[index.val]?.getD zero

theorem packed_take {reports : List LoadReportPacket} (hlength : reports.length ≤ MAX_LOADS_PER_NODE_PACKET) :
    (packed reports).toList.take reports.length = reports := by
  apply List.ext_getElem
  · rw [List.length_take, Vector.length_toList]
    omega
  · intro index _ hindex
    simp only [packed, List.getElem_take, Vector.getElem_toList, Vector.getElem_ofFn,
      List.getElem?_eq_getElem hindex, Option.getD_some]

def validMode (mode : UInt8) : Bool := mode = 0 || mode = 1 || mode = 2 || mode = 3

def validPowerType (powerType : UInt8) : Bool := powerType = 0 || powerType = 1

/-- The schedule a receiver builds from the five schedule bytes. -/
def schedule (report : LoadReportPacket) : AutoSchedule :=
  .make (report.scheduleEnabled != 0) report.scheduleStartHour report.scheduleStartMinute
    report.scheduleEndHour report.scheduleEndMinute

def validSchedule (report : LoadReportPacket) : Bool :=
  if report.scheduleEnabled = 0 then true
  else if report.scheduleStartHour > 23 || report.scheduleStartMinute > 59 || report.scheduleEndHour > 23 ||
      report.scheduleEndMinute > 59 then false
  else report.scheduleStartHour.toNat * 60 + report.scheduleStartMinute.toNat !=
    report.scheduleEndHour.toNat * 60 + report.scheduleEndMinute.toNat

def validPowerRating : CFloat → Bool
  | .finite value => 0 ≤ value
  | .nonFinite => false

def validLoadReport (report : LoadReportPacket) : Bool :=
  0 < report.name.boundedLength && report.name.boundedLength < 16 && validMode report.mode &&
    validPowerType report.powerType && report.priority ≤ 10 && validPowerRating report.powerRatingWatts &&
    report.validSchedule

/-- The registry accepts exactly the schedules that a load accepts. -/
theorem validSchedule_eq (report : LoadReportPacket) :
    report.validSchedule = report.schedule.isValidSchedule := by
  by_cases henabled : report.scheduleEnabled = 0
  · simp [validSchedule, schedule, AutoSchedule.isValidSchedule, henabled]
  · simp only [validSchedule, henabled, if_false]
    have hmake : (report.scheduleEnabled != 0) = true := by simpa using henabled
    simp only [AutoSchedule.isValidSchedule, schedule, hmake, Bool.not_true,
      Bool.false_or, AutoSchedule.timesInRange, AutoSchedule.startMinutes, AutoSchedule.endMinutes,
      AutoSchedule.make, if_true]
    split
    · rename_i hrange
      simp only [Bool.or_eq_true, decide_eq_true_eq, gt_iff_lt, ← UInt8.not_le] at hrange
      symm
      simp only [Bool.and_eq_false_iff, decide_eq_false_iff_not]
      tauto
    · rename_i hrange
      simp only [Bool.or_eq_true, decide_eq_true_eq, gt_iff_lt, ← UInt8.not_le, not_or, not_not] at hrange
      simp [hrange]

end LoadReportPacket

end kilowatts
