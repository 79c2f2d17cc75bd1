import MqmGateway.Library.Fallible
import MqmGateway.MqttClient.Requests
import MqmGateway.MqttValue.Literals

/-!
# Commands for several registers

Without a converter, the payload of a command for several registers is a JSON
array.  Its size is checked, but the type of an element is not checked before
it is read as an `int`.
-/

namespace MqmGateway

namespace MqttClient

variable {libraries : RequestLibraries} {payload : Payload}
  {registerCount : Int} {elements : List JsonValue}

def registerOf (element : JsonValue) : Except GatewayException UInt16 :=
  element.asInt?.elim (.error .undefined) fun value =>
    if 0 ≤ value ∧ value ≤ 65535 then .ok (UInt16.ofNat value.toNat)
    else .error .conv

theorem parseAsJson_of_array (parsed : libraries.parseJson (cString payload) =
      .ok (.array elements)) :
    parseAsJson libraries payload registerCount =
      if (elements.length : Int) ≠ registerCount then .error .conv
      else elements.mapM registerOf := by
  rw [parseAsJson, parsed]
  dsimp only
  congr 2
  funext element
  rw [registerOf]
  cases element.asInt? <;> rfl

/-- An element that is read as the number of a register. -/
def IsRegister (element : JsonValue) : Prop :=
  ∃ value, element.asInt? = some value ∧ 0 ≤ value ∧ value ≤ 65535

/-- Elements of which the first that is no register is an `int`. -/
def EndsOutOfRange (elements : List JsonValue) : Prop :=
  ∃ front element back value, elements = front ++ element :: back ∧
    (∀ earlier ∈ front, IsRegister earlier) ∧
    element.asInt? = some value ∧ ¬ (0 ≤ value ∧ value ≤ 65535)

theorem registerOf_ok {element : JsonValue} {register : UInt16}
    (read : registerOf element = .ok register) :
    element = .integer register.toNat := by
  rw [registerOf] at read
  cases element with
  | integer value =>
    rw [JsonValue.asInt?] at read
    split at read
    · change (if _ then _ else _) = _ at read
      split at read
      · cases read
        rw [UInt16.toNat_ofNat']
        congr 1
        omega
      · cases read
    · cases read
  | _ => cases read

theorem isRegister_integer (register : UInt16) :
    IsRegister (.integer register.toNat) := by
  have bound : register.toNat < 65536 := register.toNat_lt
  refine ⟨register.toNat, ?_, by omega, by omega⟩
  rw [JsonValue.asInt?, if_pos (by omega)]

theorem registerOf_ok_iff {element : JsonValue} :
    (∃ register, registerOf element = .ok register) ↔ IsRegister element := by
  constructor
  · rintro ⟨register, read⟩
    rw [registerOf_ok read]
    exact isRegister_integer register
  · rintro ⟨value, read, inRange⟩
    rw [registerOf, read]
    exact ⟨_, if_pos inRange⟩

theorem registerOf_conv_iff {element : JsonValue} :
    registerOf element = .error .conv ↔ ∃ value, element.asInt? = some value ∧
        ¬ (0 ≤ value ∧ value ≤ 65535) := by
  rw [registerOf]
  cases element.asInt? with
  | none => simp
  | some value =>
    simp only [Option.elim_some, Option.some.injEq, exists_eq_left']
    split <;> simp_all

theorem mapM_registerOf_conv_iff :
    elements.mapM registerOf = .error .conv ↔ EndsOutOfRange elements := by
  simp only [mapM_eq_error_iff, registerOf_ok_iff, registerOf_conv_iff,
    EndsOutOfRange, exists_and_left]

theorem mapM_registerOf {registers : List UInt16}
    (read : elements.mapM registerOf = .ok registers) :
    elements = registers.map fun register => .integer register.toNat := by
  have pointwise := forall₂_of_mapM read
  clear read
  induction pointwise with
  | nil => rfl
  | cons here _ induction =>
    rw [List.map_cons, ← induction, registerOf_ok here]

theorem mapM_registerOf_ok_iff :
    (∃ registers, elements.mapM registerOf = .ok registers) ↔
      ∀ element ∈ elements, IsRegister element := by
  constructor
  · rintro ⟨registers, read⟩ element listed
    rw [mapM_registerOf read] at listed
    obtain ⟨register, _, rfl⟩ := List.mem_map.mp listed
    exact isRegister_integer register
  · intro each
    cases read : elements.mapM registerOf with
    | ok registers => exact ⟨registers, rfl⟩
    | error exception =>
      obtain ⟨front, item, back, rfl, _, failed⟩ :=
        mapM_eq_error_iff.mp read
      obtain ⟨register, taken⟩ := registerOf_ok_iff.mpr (each item (by simp))
      cases failed.symm.trans taken

/-- A `ConvException`, or the integers of the array that the payload is.  A
null byte is no part of a JSON text. -/
def Answered (libraries : RequestLibraries) (payload : Payload)
    (registerCount : Int) : Prop :=
  defaultToModbus libraries (.binary payload) registerCount = .error .conv ∨
    (∀ char ∈ payload, char.toNat ≠ 0) ∧
    ∃ registers : List UInt16,
      libraries.parseJson payload = .ok (.array
        (registers.map fun register => .integer register.toNat)) ∧
      registers.length = registerCount ∧
      defaultToModbus libraries (.binary payload) registerCount =
        .ok registers

/-- A payload is answered exactly if the text before its first null byte is no
array of the right size, or one of registers with nothing behind it, or one in
which a number out of range comes before any other element. -/
theorem default_answered_iff {libraries : RequestLibraries}
    {payload : Payload} {registerCount : Int} (many : 1 < registerCount) :
    Answered libraries payload registerCount ↔
      ∀ elements, libraries.parseJson (cString payload) =
          .ok (.array elements) →
        (elements.length : Int) = registerCount →
        (∀ element ∈ elements, IsRegister element) ∧
            (∀ char ∈ payload, char.toNat ≠ 0) ∨
          EndsOutOfRange elements := by
  have converted : defaultToModbus libraries (.binary payload) registerCount =
      parseAsJson libraries payload registerCount := if_pos many
  rw [Answered, converted]
  constructor
  · rintro (refused | ⟨whole, registers, parsed, _, _⟩) elements array counted
    · rw [parseAsJson_of_array array, if_neg (not_not.mpr counted)] at refused
      exact .inr (mapM_registerOf_conv_iff.mp refused)
    · rw [cString_of_whole whole, parsed] at array
      cases array
      refine .inl ⟨?_, whole⟩
      intro element listed
      obtain ⟨register, _, rfl⟩ := List.mem_map.mp listed
      exact isRegister_integer register
  · intro integers
    cases parsed : libraries.parseJson (cString payload) with
    | error message =>
      left
      rw [parseAsJson, parsed]
    | ok document =>
      cases document with
      | array elements =>
        rw [parseAsJson_of_array parsed]
        split
        · exact .inl rfl
        · rename_i counted
          have sized := not_not.mp counted
          rcases integers elements parsed sized with
            ⟨each, whole⟩ | outOfRange
          · obtain ⟨registers, read⟩ := mapM_registerOf_ok_iff.mpr each
            have same := mapM_registerOf read
            rw [cString_of_whole whole, same] at parsed
            refine .inr ⟨whole, registers, parsed, ?_, read⟩
            rw [← sized, same, List.length_map]
          · exact .inl (mapM_registerOf_conv_iff.mpr outOfRange)
      | _ =>
        left
        rw [parseAsJson, parsed]

theorem default_answered_pair : Answered
      { parseJson := fun _ => .ok (.array [.integer 1, .integer 65535])
        createConverter := fun _ => .error ""
        describe := fun _ => "" }
      "[1,65535]".toList 2 := by
  refine (default_answered_iff (by decide)).mpr ?_
  intro elements parsed _
  cases parsed
  refine .inl ⟨?_, by simp⟩
  intro element listed
  simp only [List.mem_cons, List.not_mem_nil, or_false] at listed
  rcases listed with rfl | rfl <;> exact ⟨_, rfl, by decide⟩

/-- A string in an array is read as an `int`, and what stands behind a null
byte is not looked at. -/
theorem arrays_not_answered : defaultToModbus
      { parseJson := fun _ => .ok (.array [.integer 1, .string "a"])
        createConverter := fun _ => .error ""
        describe := fun _ => "" }
      (.binary "[1,\"a\"]".toList) 2 = .error .undefined ∧
    ¬ Answered
      { parseJson := fun _ => .ok (.array [.integer 1, .string "a"])
        createConverter := fun _ => .error ""
        describe := fun _ => "" }
      "[1,\"a\"]".toList 2 ∧
    ¬ Answered
      { parseJson := fun text =>
          if text = "[1,2]".toList then
            .ok (.array [.integer 1, .integer 2])
          else
            .error "Invalid document"
        createConverter := fun _ => .error ""
        describe := fun _ => "" }
      "[1,2]\x00]".toList 2 := by
  refine ⟨by decide +kernel, ?_, ?_⟩
  · rintro (refused | ⟨_, registers, _, _, written⟩)
    · cases refused
    · cases written
  · rintro (refused | ⟨whole, _⟩)
    · cases refused
    · simp at whole

end MqttClient

end MqmGateway
