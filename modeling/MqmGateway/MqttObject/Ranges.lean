import Mathlib.Tactic.Tauto
import MqmGateway.MqttObject

/-!
# Which leaves a message touches

Values are taken over by an interval test, failures by the distance from the
first register, without sign and in 16 bits.  The two agree on all leaves
except those whose register lies outside the range at a short distance.
-/

namespace MqmGateway

def MqttObjectRegisterIdent.Within (ident : MqttObjectRegisterIdent)
    (range : ModbusMessageBase) : Prop :=
  range.slaveId = ident.slaveId ∧
    range.Covers ident.registerType ident.registerNumber

instance (ident : MqttObjectRegisterIdent) (range : ModbusMessageBase) :
    Decidable (ident.Within range) :=
  inferInstanceAs (Decidable (_ ∧ _))

theorem MqttObjectRegisterIdent.within_iff (ident : MqttObjectRegisterIdent)
    (message : ModbusMessageBase) :
    (ident.sameDevice ident.networkName message = true ∧
      ident.registerNumber ≥ message.register ∧
      ident.registerNumber ≤ message.lastRegister) ↔ ident.Within message := by
  simp only [sameDevice, Within, ModbusAddressRange.Covers,
    ModbusAddressRange.firstRegister, decide_eq_true_eq]
  tauto

/-- The test of `updateRegistersReadFailed`: the distance from the first
register of the message has no sign. -/
def MqttObjectRegisterIdent.Near (ident : MqttObjectRegisterIdent)
    (message : ModbusMessageBase) : Prop :=
  ident.sameDevice ident.networkName message = true ∧
    ((ident.registerNumber - message.register).natAbs % 65536 : Nat) <
      message.count

instance (ident : MqttObjectRegisterIdent) (message : ModbusMessageBase) :
    Decidable (ident.Near message) :=
  inferInstanceAs (Decidable (_ ∧ _))

theorem MqttObjectRegisterIdent.Within.near {ident : MqttObjectRegisterIdent}
    {message : ModbusMessageBase} (within : ident.Within message) :
    ident.Near message := by
  obtain ⟨device, first, last⟩ := (ident.within_iff message).mpr within
  rw [ModbusAddressRange.lastRegister] at last
  refine ⟨device, ?_⟩
  omega

namespace LeafUpdate

theorem sameDevice_network {networkName : String}
    {message : ModbusMessageBase} {ident : MqttObjectRegisterIdent}
    (device : ident.sameDevice networkName message = true) :
    ident.networkName = networkName :=
  (of_decide_eq_true device).2.2.symm

theorem registersReadFailed_eq (networkName : String)
    (message : ModbusMessageBase) (leaf : RegisterLeaf) :
    registersReadFailed networkName message leaf.1 leaf.2 =
      if leaf.1.networkName = networkName ∧ leaf.1.Near message then
        (leaf.2.setReadError true, true)
      else
        (leaf.2, false) := by
  by_cases touched : leaf.1.networkName = networkName ∧ leaf.1.Near message
  · obtain ⟨rfl, near⟩ := touched
    rw [if_pos ⟨rfl, near⟩]
    exact if_pos near
  · rw [if_neg touched]
    refine if_neg ?_
    rintro ⟨device, short⟩
    obtain rfl := sameDevice_network device
    exact touched ⟨rfl, device, short⟩

theorem registersReadFailed_apply (networkName : String)
    (message : ModbusMessageBase) (leaf : RegisterLeaf) :
    (registersReadFailed networkName message).apply leaf =
      if leaf.1.networkName = networkName ∧ leaf.1.Near message then
        (leaf.1, leaf.2.setReadError true)
      else
        leaf := by
  rw [apply, registersReadFailed_eq]
  split <;> rfl

theorem registersReadFailed_changes (networkName : String)
    (message : ModbusMessageBase) (leaf : RegisterLeaf) :
    (registersReadFailed networkName message).changes leaf = true ↔
      leaf.1.networkName = networkName ∧ leaf.1.Near message := by
  rw [changes, registersReadFailed_eq]
  split
  · rename_i touched
    exact iff_of_true rfl touched
  · rename_i apart
    exact iff_of_false (by simp) apart

theorem registerValues_apply (networkName : String)
    (slaveData : MsgRegisterValues) (leaf : RegisterLeaf) :
    (registerValues networkName slaveData).apply leaf =
      if leaf.1.networkName = networkName ∧
          leaf.1.Within slaveData.toModbusMessageBase then
        (leaf.1, { readOk := true, hasValue := true
                   value := slaveData.registers.getD
                    ((leaf.1.registerNumber - slaveData.register) %
                      65536).toNat 0 })
      else
        leaf := by
  by_cases touched : leaf.1.networkName = networkName ∧
      leaf.1.Within slaveData.toModbusMessageBase
  · obtain ⟨rfl, within⟩ := touched
    rw [if_pos ⟨rfl, within⟩, apply, registerValues,
      if_pos ((leaf.1.within_iff _).mpr within)]
    rfl
  · have keeps : registerValues networkName slaveData leaf.1 leaf.2 =
        (leaf.2, false) := by
      refine if_neg ?_
      intro inside
      obtain rfl := sameDevice_network inside.1
      exact touched ⟨rfl, (leaf.1.within_iff _).mp inside⟩
    rw [if_neg touched, apply, keeps]

end LeafUpdate

/-- A failure marks exactly the leaves of the range, and values for the same
range are taken over and clear the mark on exactly the same ones. -/
def MqttObjectState.TouchesRange (state : MqttObjectState)
    (networkName : String) (message : ModbusMessageBase) : Prop :=
  (state.update (.registersReadFailed networkName message)).1.leaves =
      state.leaves.map (fun leaf =>
        if leaf.1.networkName = networkName ∧ leaf.1.Within message then
          (leaf.1, { leaf.2 with readOk := false })
        else
          leaf) ∧
    ∀ slaveData : MsgRegisterValues,
      slaveData.toModbusMessageBase = message →
      (state.update (.registerValues networkName slaveData)).1.leaves =
        state.leaves.map (fun leaf =>
          if leaf.1.networkName = networkName ∧ leaf.1.Within message then
            (leaf.1, { readOk := true, hasValue := true
                       value := slaveData.registers.getD
                        ((leaf.1.registerNumber - message.register) %
                          65536).toNat 0 })
          else
            leaf)

theorem RegisterLeaf.marked_eq_iff (leaf : RegisterLeaf) (networkName : String)
    (message : ModbusMessageBase) :
    (LeafUpdate.registersReadFailed networkName message).apply leaf =
      (if leaf.1.networkName = networkName ∧ leaf.1.Within message then
        (leaf.1, { leaf.2 with readOk := false })
      else
        leaf) ↔
    (leaf.1.networkName = networkName → leaf.2.readOk = true →
      leaf.1.Near message → leaf.1.Within message) := by
  rw [LeafUpdate.registersReadFailed_apply]
  by_cases own : leaf.1.networkName = networkName
  · by_cases within : leaf.1.Within message
    · simp [own, within, within.near, MqttObjectRegisterValue.setReadError]
    · by_cases near : leaf.1.Near message
      · obtain ⟨ident, readOk, hasValue, value⟩ := leaf
        cases readOk <;>
          simp_all [MqttObjectRegisterValue.setReadError]
      · simp [within, near]
  · simp [own]

theorem updates_touch_range_iff (state : MqttObjectState)
    (networkName : String) (message : ModbusMessageBase) :
    state.TouchesRange networkName message ↔
      ∀ leaf ∈ state.leaves, leaf.1.networkName = networkName →
        leaf.2.readOk = true → leaf.1.Near message → leaf.1.Within message := by
  rw [MqttObjectState.TouchesRange, MqttObjectState.leaves_update,
    List.map_inj_left]
  simp only [RegisterLeaf.marked_eq_iff]
  refine and_iff_left ?_
  rintro slaveData rfl
  rw [MqttObjectState.leaves_update]
  exact List.map_congr_left fun leaf _ =>
    LeafUpdate.registerValues_apply networkName slaveData leaf

def registerPair (first second : Int) : MqttObjectState :=
  { nodes := [first, second].map fun registerNumber =>
      .scalar "" none
        { networkName := "net", slaveId := 1, registerNumber
          registerType := .holding } {}
    outputAsList := true }

/-- A failure of registers 10 and 11 marks register 9 as well. -/
theorem failure_marks_register_before :
    (((registerPair 9 10).update (.registersReadFailed "net"
        { register := 10, count := 2, registerType := .holding
          slaveId := 1, commandId := 0 })).1.leaves.map
      fun leaf => leaf.2.readOk) = [false, false] := by
  decide

end MqmGateway
