import MqmGateway.Gateway.Schedule

/-!
# The settings of the commands

A thread keeps the settings of its network and of the slaves.  Every command
it makes, whether a poll of the specification, a read or a write that was
asked for, carries the settings that are in force for its slave.
-/

namespace MqmGateway

namespace RegisterCommandSettings

/-- What the settings of a slave change: delays that are given, and retries
other than zero. -/
def update (settings : RegisterCommandSettings) (slave : ModbusSlaveConfig) :
    RegisterCommandSettings :=
  { delayBeforeFirstCommand :=
      slave.delayBeforeFirstCommand.getD settings.delayBeforeFirstCommand
    delayBeforeCommand :=
      slave.delayBeforeCommand.getD settings.delayBeforeCommand
    maxReadRetryCount :=
      if slave.maxReadRetryCount ≠ 0 then slave.maxReadRetryCount
      else settings.maxReadRetryCount
    maxWriteRetryCount :=
      if slave.maxWriteRetryCount ≠ 0 then slave.maxWriteRetryCount
      else settings.maxWriteRetryCount }

end RegisterCommandSettings

namespace ModbusThread

/-- The settings of a slave that has none of its own. -/
def networkSettings (thread : ModbusThread) : RegisterCommandSettings :=
  { delayBeforeFirstCommand := thread.delayBeforeFirstCommand.getD 0
    delayBeforeCommand := thread.delayBeforeCommand.getD 0
    maxReadRetryCount := thread.maxReadRetryCount
    maxWriteRetryCount := thread.maxWriteRetryCount }

theorem applySlaveConfig_eq (thread : ModbusThread) (slaveId : Int) :
    thread.applySlaveConfig slaveId =
      ((thread.slaves slaveId).map thread.networkSettings.update).getD
        thread.networkSettings := by
  rw [applySlaveConfig]
  cases thread.slaves slaveId with
  | none => rfl
  | some slave =>
    obtain ⟨delay, firstDelay, reads, writes, mode⟩ := slave
    cases delay <;> cases firstDelay <;> rfl

/-- A message with the settings of a slave: they replace what was known, and
change the polls of the slave. -/
def updateFromSlaveConfig (thread : ModbusThread) (address : Int)
    (slave : ModbusSlaveConfig) : ModbusThread :=
  { thread with
    slaves := Function.update thread.slaves address (some slave)
    registerMap :=
      { entries := thread.registerMap.entries.map fun entry =>
          (entry.1, if entry.1 = address then
            entry.2.map fun reg =>
              { reg with
                toRegisterCommandSettings :=
                  reg.toRegisterCommandSettings.update slave }
            else entry.2)
        sorted := List.pairwise_map.mpr thread.registerMap.sorted } }

/-- Each of the messages replaces what is known about its slave. -/
def slavesAfter (slaves : Int → Option ModbusSlaveConfig)
    (messages : List (Int × ModbusSlaveConfig)) :
    Int → Option ModbusSlaveConfig :=
  messages.foldl (fun slaves message =>
    Function.update slaves message.1 (some message.2)) slaves

theorem foldl_updateFromSlaveConfig (thread : ModbusThread)
    (empty : thread.registerMap = .empty)
    (messages : List (Int × ModbusSlaveConfig)) :
    messages.foldl (fun thread message =>
        thread.updateFromSlaveConfig message.1 message.2) thread =
      { thread with slaves := slavesAfter thread.slaves messages } := by
  induction messages generalizing thread with
  | nil => rfl
  | cons message messages induction =>
    have updated : thread.updateFromSlaveConfig message.1 message.2 =
        { thread with
          slaves := Function.update thread.slaves message.1
            (some message.2) } := by
      cases thread
      cases empty
      rfl
    rw [List.foldl_cons, updated]
    exact induction
      { thread with
        slaves := Function.update thread.slaves message.1
          (some message.2) } empty

/-- Everything the thread schedules, holds or has sent carries the given
settings of its slave. -/
structure Configured (settings : Int → RegisterCommandSettings)
    (thread : ModbusThread) (bus : List ExecutorEvent) : Prop where
  applied : thread.applySlaveConfig = settings
  scheduled : ∀ reg, thread.Scheduled reg →
    reg.toRegisterCommandSettings = settings reg.slaveId
  pending : ∀ command, 0 < thread.executor.commands.pendingCount command →
    command.settings = settings command.slaveId
  accepted : ∀ command, .accepted command ∈ bus →
    command.settings = settings command.slaveId
  issued : ∀ command outcome retriesLeft,
    .issued command outcome retriesLeft ∈ bus →
    command.settings = settings command.slaveId

theorem ThreadStep.applySlaveConfig {thread next : ModbusThread}
    {input : ThreadInput} {events : List ThreadEvent}
    (step : ThreadStep thread input next events) :
    next.applySlaveConfig = thread.applySlaveConfig := by
  cases step with
  | execute _ after =>
    obtain ⟨_, _, rfl⟩ := after.same
    rfl
  | _ => rfl

namespace Configured

variable {settings : Int → RegisterCommandSettings} {thread : ModbusThread}
  {bus : List ExecutorEvent}

theorem queues (configured : Configured settings thread bus)
    (toModbus : List ModbusRequest) (fromModbus : List QueueItem) :
    Configured settings { thread with toModbus, fromModbus } bus :=
  ⟨configured.applied, configured.scheduled, configured.pending,
    configured.accepted, configured.issued⟩

theorem step (configured : Configured settings thread bus)
    {next : ModbusThread} {input : ThreadInput} {events : List ThreadEvent}
    (threadStep : ThreadStep thread input next events) :
    Configured settings next (bus ++ events.filterMap (·.executorEvent)) := by
  have applied : thread.applySlaveConfig = settings := configured.applied
  have scheduled : ∀ reg, next.Scheduled reg →
      reg.toRegisterCommandSettings = settings reg.slaveId := by
    intro reg ⟨entry, listed, member⟩
    rcases threadStep.registerMap with same | ⟨spec, _, replaced⟩
    · exact configured.scheduled reg ⟨entry, same ▸ listed, member⟩
    · rw [replaced] at listed
      obtain ⟨poll, _, address, rfl⟩ :=
        specifiedPolls_origin (mem_bySlave listed member).1
      exact congrFun applied poll.slaveId
  have accepted : ∀ command,
      .accepted command ∈ events.filterMap (·.executorEvent) →
      command.settings = settings command.slaveId := by
    intro command logged
    rcases threadStep.accepted logged with
      ⟨reg, rfl, polled⟩ | ⟨message, _, rfl⟩ | ⟨message, _, rfl⟩
    · exact scheduled reg polled
    · exact congrFun applied message.slaveId
    · exact congrFun applied message.slaveId
  refine ⟨threadStep.applySlaveConfig.trans applied, scheduled, ?_, ?_, ?_⟩
  · intro command pending
    by_cases before : 0 < thread.executor.commands.pendingCount command
    · exact configured.pending command before
    · have balanced := trace_balance threadStep.trace command
      exact accepted command (List.count_pos_iff.mp (by omega))
  · intro command logged
    rcases List.mem_append.mp logged with earlier | here
    · exact configured.accepted command earlier
    · exact accepted command here
  · intro command outcome retriesLeft logged
    rcases List.mem_append.mp logged with earlier | here
    · exact configured.issued command outcome retriesLeft earlier
    · rcases threadStep.traffic with
        ⟨call, executor, returned, executing, _, executed, rfl, _⟩ | ⟨quiet, _⟩
      · rw [filterMap_executorEvent_bus] at here
        exact configured.pending command
          ((ModbusExecutor.executeNext_execution executed).pending here)
      · cases quiet _ here

end Configured

end ModbusThread

namespace Gateway

variable {libraries : RequestLibraries} {config : Configuration} {now : Int}
  {created : RegisterPoll → Int}
  {allowed : Gateway → List GatewayEvent → GatewayInput → Prop}
  {gateway : Gateway} {history : List GatewayEvent}

theorem run_configured
    (run : Runs (step libraries) allowed (start config now created) gateway
      history) (name : String) :
    (gateway.threads name).Configured
      (config.thread now created name).applySlaveConfig
      (busHistory name history) := by
  induction run with
  | start =>
    refine ⟨rfl, ?_, ?_, by simp [busHistory], by simp [busHistory]⟩
    · intro reg scheduled
      exact absurd scheduled (ModbusThread.not_scheduled_of_empty rfl reg)
    · intro command pending
      exact absurd pending (ModbusExecutor.pendingCount_create ..).not_gt
  | @step _ _ _ events _ _ _ stepped induction =>
    rw [busHistory_append, busHistory_eq name events]
    rcases (step_cases stepped).activity name with
      ⟨_, _, _, _, threadStep, happened⟩ | ⟨silent, _, _, same⟩
    · rw [happened]
      exact induction.step threadStep
    · rw [silent, same]
      simpa using induction.queues _ _

end Gateway

end MqmGateway
