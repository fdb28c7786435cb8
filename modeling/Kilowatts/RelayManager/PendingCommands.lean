import Kilowatts.Library.KeyedList
import Kilowatts.RelayManager.RelayCommandDispatcher

namespace kilowatts

/-- One command that Central waits to see acknowledged. -/
structure PendingCommand where
  commandId : UInt32
  nodeMacAddress : MacAddress
  relayPin : UInt8
  desiredOn : Bool
deriving DecidableEq

/-- The pending entry of a target, under the command's id. -/
def RelayTarget.pending (target : RelayTarget) (commandId : UInt32) : PendingCommand :=
  ⟨commandId, target.nodeMacAddress, target.relayPin, target.desiredOn⟩

@[simp] theorem RelayTarget.pending_commandId (target : RelayTarget) (commandId : UInt32) :
    (target.pending commandId).commandId = commandId := rfl

/-- The commands in flight, and the outcome of the command that was completed last. -/
structure RelayCommandDispatcher where
  pendingCommands : List PendingCommand
  nextCommandId : UInt32
  lastCompletedCommandId : UInt32
  lastCompletedCommandSuccess : Bool

namespace RelayCommandDispatcher

/-- No command is pending, and the first id is 1. -/
def initial : RelayCommandDispatcher := ⟨[], 1, 0, false⟩

/-- The new entry is appended without a look at the ids that are pending. -/
def beginCommand (dispatcher : RelayCommandDispatcher) (target : RelayTarget) : RelayCommandDispatcher × UInt32 :=
  ({ dispatcher with
      pendingCommands := dispatcher.pendingCommands ++ [target.pending dispatcher.nextCommandId]
      nextCommandId := dispatcher.nextCommandId + 1 },
    dispatcher.nextCommandId)

/-- The pending command with this id. -/
def findPendingCommand (dispatcher : RelayCommandDispatcher) (commandId : UInt32) : Option PendingCommand :=
  KeyedList.lookup PendingCommand.commandId dispatcher.pendingCommands commandId

/-- The command has been sent and not completed yet. -/
def isPending (dispatcher : RelayCommandDispatcher) (commandId : UInt32) : Bool :=
  (dispatcher.findPendingCommand commandId).isSome

/-- A result for an id that is not pending is refused. -/
def completeCommand (dispatcher : RelayCommandDispatcher) (commandId : UInt32) (success : Bool) :
    RelayCommandDispatcher × Bool :=
  if dispatcher.isPending commandId then
    ({ dispatcher with
        pendingCommands := KeyedList.remove PendingCommand.commandId commandId dispatcher.pendingCommands
        lastCompletedCommandId := commandId
        lastCompletedCommandSuccess := success }, true)
  else (dispatcher, false)

/-- The success of the last completed command only. -/
def wasCommandSuccessful (dispatcher : RelayCommandDispatcher) (commandId : UInt32) : Bool :=
  commandId = dispatcher.lastCompletedCommandId && dispatcher.lastCompletedCommandSuccess

/-- No two commands in flight share an id. -/
def IdsNodup (dispatcher : RelayCommandDispatcher) : Prop :=
  (dispatcher.pendingCommands.map PendingCommand.commandId).Nodup

section Lemmas

variable {dispatcher : RelayCommandDispatcher} {target : RelayTarget} {commandId other : UInt32}

theorem findPendingCommand_eq_none_iff : dispatcher.findPendingCommand commandId = none ↔
    dispatcher.isPending commandId = false := by
  rw [isPending, Option.isSome_eq_false_iff, Option.isNone_iff_eq_none]

/-- The new command is pending under its id. Needs that the id was not pending. -/
theorem beginCommand_find (hunused : dispatcher.isPending dispatcher.nextCommandId = false) :
    (dispatcher.beginCommand target).1.findPendingCommand other =
      if other = dispatcher.nextCommandId then some (target.pending dispatcher.nextCommandId)
      else dispatcher.findPendingCommand other := by
  refine (KeyedList.lookup_append_singleton _ _ other).trans ?_
  by_cases hother : other = dispatcher.nextCommandId
  · subst hother
    have hnone := findPendingCommand_eq_none_iff.mpr hunused
    rw [findPendingCommand] at hnone
    rw [hnone, Option.none_or, RelayTarget.pending_commandId, if_pos rfl, if_pos rfl]
  · rw [RelayTarget.pending_commandId, if_neg (Ne.symm hother), Option.or_none, if_neg hother]
    rfl

/-- Ids stay distinct. Needs that the new id was not pending. -/
theorem beginCommand_idsNodup (hnodup : dispatcher.IdsNodup)
    (hunused : dispatcher.isPending dispatcher.nextCommandId = false) :
    (dispatcher.beginCommand target).1.IdsNodup := by
  have hnew := KeyedList.lookup_eq_none_iff.mp (findPendingCommand_eq_none_iff.mpr hunused)
  rw [IdsNodup, beginCommand, List.map_append, List.map_singleton, ← List.concat_eq_append]
  exact hnodup.concat hnew

/-- An unknown result changes nothing. -/
theorem completeCommand_of_not_isPending (hpending : dispatcher.isPending commandId = false) (success : Bool) :
    dispatcher.completeCommand commandId success = (dispatcher, false) := by
  rw [completeCommand, hpending, if_neg Bool.false_ne_true]

/-- Completing a command only removes an entry. -/
theorem completeCommand_idsNodup (hnodup : dispatcher.IdsNodup) (commandId : UInt32) (success : Bool) :
    (dispatcher.completeCommand commandId success).1.IdsNodup := by
  unfold completeCommand
  split
  · exact hnodup.sublist ((KeyedList.remove_sublist _ _).map _)
  · exact hnodup

/-- A completed command is not in flight any more, and every other one still is. -/
theorem completeCommand_find (hnodup : dispatcher.IdsNodup) (commandId other : UInt32) (success : Bool) :
    (dispatcher.completeCommand commandId success).1.findPendingCommand other =
      if other = commandId then none else dispatcher.findPendingCommand other := by
  unfold completeCommand
  split
  · exact KeyedList.lookup_remove hnodup commandId other
  · next hpending =>
    split
    · next hother => exact hother ▸ findPendingCommand_eq_none_iff.mpr (Bool.eq_false_of_not_eq_true hpending)
    · rfl

/-- What is not pending does not become pending by a completion. -/
theorem completeCommand_not_isPending (hnodup : dispatcher.IdsNodup) (commandId : UInt32) (success : Bool)
    (hother : dispatcher.isPending other = false) :
    (dispatcher.completeCommand commandId success).1.isPending other = false := by
  rw [← findPendingCommand_eq_none_iff] at hother ⊢
  rw [completeCommand_find hnodup, hother, ite_self]

/-- The slot tells the outcome of the command that was completed last. -/
theorem completeCommand_last (hpending : dispatcher.isPending commandId = true) (success : Bool) :
    (dispatcher.completeCommand commandId success).1.lastCompletedCommandId = commandId ∧
      (dispatcher.completeCommand commandId success).1.lastCompletedCommandSuccess = success := by
  rw [completeCommand, if_pos hpending]
  exact ⟨rfl, rfl⟩

theorem wasCommandSuccessful_iff : dispatcher.wasCommandSuccessful commandId = true ↔
    commandId = dispatcher.lastCompletedCommandId ∧ dispatcher.lastCompletedCommandSuccess = true := by
  rw [wasCommandSuccessful, Bool.and_eq_true, decide_eq_true_eq]

end Lemmas

end RelayCommandDispatcher

end kilowatts
