import MqmGateway.RegisterPoll

/-!
# The modbus context

`ModbusContext` turns a command into one libmodbus call.  What the bus does
is an input: a call either fails or finds the device with some register
contents.
-/

namespace MqmGateway

/-- What the bus answers to one call.  `contents` is what the addressed slave
holds in the registers of the addressed type. -/
structure ModbusAnswer where
  fails : Bool
  contents : Int → UInt16

inductive ModbusException where
  | read
  | write
  | context
deriving DecidableEq, Repr

/-- The register types that `writeModbusRegisters` has a case for. -/
def RegisterType.writable : RegisterType → Bool
  | .coil | .holding => true
  | .bit | .input => false

namespace ModbusContext

/-- Every register type has its own read function, so the only exception is
that of a failed read; a successful read returns `count` values. -/
def readModbusRegisters (poll : RegisterPoll) (count : Nat)
    (answer : ModbusAnswer) : Except ModbusException (List UInt16) :=
  if answer.fails then
    .error .read
  else
    .ok ((List.range count).map fun index : Nat =>
      answer.contents (poll.register + index))

/-- Only coils and holding registers can be written. -/
def writeModbusRegisters (write : RegisterWrite) (answer : ModbusAnswer) :
    Except ModbusException Unit :=
  match write.registerType with
  | .coil | .holding => if answer.fails then .error .write else .ok ()
  | .bit | .input => .error .context

theorem fails_of_write_error {write : RegisterWrite} {answer : ModbusAnswer}
    (failed : writeModbusRegisters write answer = .error .write) :
    answer.fails = true := by
  by_contra answers
  rw [writeModbusRegisters] at failed
  cases type : write.registerType <;> simp [type, answers] at failed

end ModbusContext

end MqmGateway
