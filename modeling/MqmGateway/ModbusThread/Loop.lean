import MqmGateway.Library.Logged
import MqmGateway.ModbusThread.Durations
import MqmGateway.ModbusThread.Watchdog

/-!
# The loop of a modbus thread

`ModbusThread::run`, one round of its loop at a time, once the settings of the
network have arrived: connect, schedule polls and execute one command, then
let the watchdog close the connection or wait for messages and dispatch all of
them.  What a round reads from its environment is its input.  Sums of times
that leave the range of a `steady_clock::duration` wrap around.
-/

namespace MqmGateway

open Duration

inductive LoopEvent where
  | thread (event : ThreadEvent)
  | watchdog (call : WatchdogCall)

structure SupervisedThread where
  thread : ModbusThread
  watchdog : ModbusWatchdog

/-- `lastWriteOk` is `mLastWriteOk` of the write that was executed last, and
`endWork` is set when `EndWorkMessage` is in the queue: its place there makes
no difference. -/
structure ThreadLoop extends SupervisedThread where
  idleWaitDuration : Duration
  nextPollTimePoint : Int
  lastWriteOk : Bool
  endWork : Bool
  shouldRun : Bool

/-- The clock readings of a round in the order they are taken, and what else
it finds: the result of `connect`, the answer of the bus, the messages that
arrive until its wait is over and what is read to dispatch each of them.  The
scheduler is asked at `now`, and its list is added at `added`. -/
structure RoundInput where
  arrivals : List ModbusRequest
  endWork : Bool
  connects : Bool
  connectReset : Int
  connectPoll : Int
  now : Int
  added : Int
  execute : ExecuteInput
  inspection : Inspection
  checkTime : Int
  forcedReset : Int
  dispatches : List (Bool × Int)

namespace ThreadLoop

abbrev Stage := Logged ThreadLoop LoopEvent

def maxReconnectTime : Duration := 60000000000

def start (thread : ModbusThread) (watchdog : ModbusWatchdog) (now : Int) :
    ThreadLoop :=
  { thread
    watchdog
    idleWaitDuration := Duration.max
    nextPollTimePoint := now
    lastWriteOk := false
    endWork := false
    shouldRun := true }

def arrive (input : RoundInput) : Stage := fun loop =>
  some ({ loop with
      thread := input.arrivals.foldl ModbusThread.enqueue loop.thread
      endWork := loop.endWork || input.endWork }, [])

def connect (input : RoundInput) : Stage := fun loop =>
  if loop.thread.modbusConnected then
    some (loop, [])
  else
    let idle :=
      if loop.idleWaitDuration > maxReconnectTime then 0
      else loop.idleWaitDuration
    if input.connects then
      (loop.thread.connect input.connectPoll).map fun result =>
        ({ loop with
            thread := result.1
            watchdog := loop.watchdog.reset input.connectReset
            idleWaitDuration := idle },
          .watchdog (.reset input.connectReset) :: result.2.map .thread)
    else
      some ({ loop with
          thread := loop.thread.sendNetworkState false
          idleWaitDuration :=
            if idle < maxReconnectTime then idle + 5000000000 else idle },
        [.thread (.networkState false)])

def schedule (input : RoundInput) : Stage := fun loop =>
  if loop.thread.executor.initialPoll then
    some (loop, [])
  else if loop.nextPollTimePoint < input.now then
    let found := ModbusScheduler.pollLoop loop.thread.registerMap
      loop.thread.executor.polls input.now
    (loop.thread.call (.addPollList found.1 input.added)).map fun result =>
      ({ loop with
          thread := result.1
          nextPollTimePoint := wrapped (input.now + found.2) },
        result.2.map .thread)
  else
    some (loop, [])

/-- `mLastWriteOk` is set by the call of a write. -/
def noteWrite (lastWriteOk : Bool) : ExecutorEvent → Bool
  | .issued (.write _) outcome _ => outcome.isOk
  | _ => lastWriteOk

def executedOk (loop : ThreadLoop) : RegisterCommand → Bool
  | .poll reg => (loop.thread.executor.polls reg).lastReadOk
  | .write _ => loop.lastWriteOk

/-- The watchdog looks at the last command; without one its reference is not
valid. -/
def inspect (input : RoundInput) : Stage := fun loop =>
  loop.thread.executor.lastCommand.map fun command =>
    ({ loop with
        watchdog := loop.watchdog.inspectCommand (loop.executedOk command)
          input.inspection },
      [.watchdog (.inspectCommand (loop.executedOk command) input.inspection)])

/-- `executeNext`, whose exceptions end the thread. -/
def executeNext (input : RoundInput) : Stage := fun loop =>
  match loop.thread.executor.executeNext input.execute,
      loop.thread.execute input.execute with
  | some (_, calls, returned), some (thread, events) =>
    some ({ loop with
        thread
        lastWriteOk := calls.foldl noteWrite loop.lastWriteOk
        idleWaitDuration := returned.toOption.getD loop.idleWaitDuration },
      events.map .thread)
  | _, _ => none

/-- After an exception the rest of the loop is not executed. -/
def unlessEnded (stage : Stage) : Stage := fun loop =>
  if loop.thread.isRunning then stage loop else some (loop, [])

def inspectSent (input : RoundInput) : Stage := fun loop =>
  if loop.idleWaitDuration = 0 then inspect input loop else some (loop, [])

def poll (input : RoundInput) : Stage := fun loop =>
  if loop.thread.executor.allDone then
    some ({ loop with
        idleWaitDuration := wrapped (loop.nextPollTimePoint - input.now) }, [])
  else
    (executeNext input).andThen (unlessEnded (inspectSent input)) loop

def work (input : RoundInput) : Stage := fun loop =>
  if loop.thread.modbusConnected then
    if loop.thread.mqttConnected then
      (schedule input).andThen (poll input) loop
    else
      some ({ loop with idleWaitDuration := Duration.max }, [])
  else
    some (loop, [])

/-- Without a period in the file the watchdog waits at least twice the
shortest refresh. -/
def deduceWatchPeriod : Stage := fun loop =>
  let watchPeriod :=
    wrapped (ModbusScheduler.getMinPollTime loop.thread.registerMap * 2)
  if loop.watchdog.config.autoWatchPeriod &&
      decide (loop.watchdog.config.watchPeriod < watchPeriod) then
    some ({ loop with watchdog := loop.watchdog.setWatchPeriod watchPeriod },
      [.watchdog (.setWatchPeriod watchPeriod)])
  else
    some (loop, [])

def dispatch (reading : Bool × Int) : Stage := fun loop =>
  match loop.thread.toModbus with
  | [] => none
  | request :: requests =>
    match { loop.thread with toModbus := requests }.handle request
      reading.1 reading.2 with
    | none => none
    | some (thread, events) =>
      let handled := { loop with thread }
      match request with
      | .pollSpecification _ =>
        (deduceWatchPeriod handled).map fun result =>
          (result.1, events.map .thread ++ result.2)
      | _ => some (handled, events.map .thread)

/-- The messages are dispatched until the queue is empty. -/
def dispatchMessages : List (Bool × Int) → Stage
  | [] => fun loop =>
    if loop.thread.toModbus.isEmpty then
      some ({ loop with shouldRun := !loop.endWork }, [])
    else
      none
  | reading :: readings =>
    (dispatch reading).andThen (dispatchMessages readings)

/-- A wait for messages.  A negative time, in microseconds, is one without
end. -/
def receive (input : RoundInput) : Stage := fun loop =>
  if loop.thread.toModbus.isEmpty && !loop.endWork &&
      decide (loop.idleWaitDuration.tdiv 1000 < 0) then
    none
  else
    dispatchMessages input.dispatches loop

def watch (input : RoundInput) : Stage := fun loop =>
  if loop.thread.modbusConnected &&
      loop.watchdog.isReconnectRequired input.checkTime then
    some ({ loop with
        thread :=
          { loop.thread with modbusConnected := false }.sendNetworkState false
        watchdog := loop.watchdog.reset input.forcedReset },
      [.watchdog (.close input.checkTime input.forcedReset),
        .thread (.networkState false)])
  else
    receive input loop

/-- One round of the loop; `none` if it is over, if the round does not end,
or if there is no command for the watchdog to look at. -/
def step (loop : ThreadLoop) (input : RoundInput) :
    Option (ThreadLoop × List LoopEvent) :=
  if loop.shouldRun && loop.thread.isRunning then
    (arrive input).andThen ((connect input).andThen ((work input).andThen
      (unlessEnded (watch input)))) loop
  else
    none

end ThreadLoop

end MqmGateway
