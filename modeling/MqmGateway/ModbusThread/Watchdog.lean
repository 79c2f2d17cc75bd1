import MqmGateway.Config.Watchdog

/-!
# The watchdog of a modbus thread

The watchdog remembers when a command last succeeded and whether the file of a
serial device has disappeared.  From these the loop of the thread decides to
close the connection.
-/

namespace MqmGateway

structure ModbusWatchdog where
  config : ModbusWatchdogConfig
  devicePath : String
  lastSuccessfulCommandTime : Int
  lastDeviceCheckTime : Int
  lastCommandOk : Bool
  deviceRemoved : Bool

/-- The clock and the file system, as `inspectCommand` finds them. -/
structure Inspection where
  now : Int
  deviceExists : Bool

/-- What the loop tells the watchdog.  `close` is an answer that the
connection has to be closed, and the reset that follows. -/
inductive WatchdogCall where
  | reset (now : Int)
  | setWatchPeriod (watchPeriod : Duration)
  | inspectCommand (executedOk : Bool) (inspection : Inspection)
  | close (asked now : Int)

namespace ModbusWatchdog

def sDeviceCheckPeriod : Duration := 300000000

def reset (watchdog : ModbusWatchdog) (now : Int) : ModbusWatchdog :=
  { watchdog with
    lastSuccessfulCommandTime := now
    deviceRemoved := false
    lastCommandOk := true }

def init (config : ModbusWatchdogConfig) (devicePath : String) (now : Int) :
    ModbusWatchdog :=
  { config
    devicePath
    lastSuccessfulCommandTime := now
    lastDeviceCheckTime := 0
    lastCommandOk := true
    deviceRemoved := false }

def setWatchPeriod (watchdog : ModbusWatchdog) (watchPeriod : Duration) :
    ModbusWatchdog :=
  { watchdog with config := { watchdog.config with watchPeriod } }

/-- A failed command is a reason to look for the device, unless that was done
for the failure before and not long ago. -/
def checksDevice (watchdog : ModbusWatchdog) (now : Int) : Bool :=
  watchdog.devicePath ≠ "" &&
    (!watchdog.deviceRemoved && (watchdog.lastCommandOk ||
      decide (now - watchdog.lastDeviceCheckTime > sDeviceCheckPeriod)))

def inspectCommand (watchdog : ModbusWatchdog) (executedOk : Bool)
    (inspection : Inspection) : ModbusWatchdog :=
  let inspected :=
    if executedOk then
      watchdog.reset inspection.now
    else if watchdog.checksDevice inspection.now then
      { watchdog with
        deviceRemoved := !inspection.deviceExists
        lastDeviceCheckTime := inspection.now }
    else
      watchdog
  { inspected with lastCommandOk := executedOk }

def isReconnectRequired (watchdog : ModbusWatchdog) (now : Int) : Bool :=
  watchdog.deviceRemoved ||
    decide (now - watchdog.lastSuccessfulCommandTime >
      watchdog.config.watchPeriod)

def after (watchdog : ModbusWatchdog) : WatchdogCall → ModbusWatchdog
  | .reset now | .close _ now => watchdog.reset now
  | .setWatchPeriod watchPeriod => watchdog.setWatchPeriod watchPeriod
  | .inspectCommand executedOk inspection =>
    watchdog.inspectCommand executedOk inspection

end ModbusWatchdog

end MqmGateway
