import MqmGateway.Converters

/-!
# The string converter

Bytes are packed into registers with the first one above the second, and both
directions pass the registers through `htons`, which swaps bytes on a
little-endian host.  Characters are signed, so a byte from 0x80 on is extended
by ones when it is widened.
-/

namespace MqmGateway

open ConverterTools

namespace ConverterTools

/-- `htons` on a little-endian host. -/
def htons (value : UInt16) : UInt16 :=
  setByteOrder value true

def adaptToNetworkByteOrder (registers : List UInt16) : List UInt16 :=
  registers.map htons

end ConverterTools

def Payload.ofBytes (bytes : List UInt8) : Payload :=
  bytes.map Char.ofUInt8

/-- The memory of a number on a little-endian host. -/
def littleEndian : Nat → Int → List UInt8
  | 0, _ => []
  | size + 1, value =>
    UInt8.ofNat (value % 256).toNat :: littleEndian size (value / 256)

/-- `getBinaryPtr` up to `getBinarySize`; the memory of a double is not part
of the model. -/
def MqttValue.getBinary (doubleMemory : MqttValue → Payload) :
    MqttValue → Payload
  | .binary bytes => bytes
  | .int value => Payload.ofBytes (littleEndian 4 value)
  | .int64 value => Payload.ofBytes (littleEndian 8 value)
  | .double text json truncated => doubleMemory (.double text json truncated)

namespace StringConverter

/-- A character, which is signed, as an `uint16_t`. -/
def charValue (char : Char) : UInt16 :=
  UInt16.ofInt
    (if char.toNat < 128 then char.toNat else char.toNat - 256)

/-- The loop of `toModbus`; the text is what `strPtr` and `strLen` have left
to read. -/
def packRegisters : Nat → Payload → List UInt16
  | 0, _ => []
  | count + 1, [] => 0 :: packRegisters count []
  | count + 1, [char] => charValue char <<< 8 :: packRegisters count []
  | count + 1, high :: low :: rest =>
    ((charValue high <<< 8) + charValue low) :: packRegisters count rest

/-- The bytes of the registers in the memory of a little-endian host. -/
def memoryBytes (registers : List UInt16) : List UInt8 :=
  registers.flatMap fun register : UInt16 =>
    [register.toUInt8, (register >>> 8).toUInt8]

/-- A C string ends at its first null byte. -/
def toMqtt (data : List UInt16) : Except GatewayException MqttValue :=
  .ok (.binary (Payload.ofBytes
    ((memoryBytes (adaptToNetworkByteOrder data)).takeWhile (· ≠ 0))))

/-- A vector of negative length cannot be made. -/
def toModbus (doubleMemory : MqttValue → Payload) (value : MqttValue)
    (registerCount : Int) : Except GatewayException (List UInt16) :=
  if registerCount < 0 then
    .error .standard
  else
    .ok (adaptToNetworkByteOrder
      (packRegisters registerCount.toNat (value.getBinary doubleMemory)))

end StringConverter

def stringConverter (doubleMemory : MqttValue → Payload) : DataConverter :=
  { toMqtt := StringConverter.toMqtt
    toModbus := StringConverter.toModbus doubleMemory }

namespace StringConverter

@[simp] theorem htons_htons (value : UInt16) : htons (htons value) = value :=
  setByteOrder_setByteOrder value true

theorem adapt_adapt (registers : List UInt16) :
    adaptToNetworkByteOrder (adaptToNetworkByteOrder registers) =
      registers := by
  simp [adaptToNetworkByteOrder, Function.comp_def]

theorem toNat_ofUInt8 (byte : UInt8) : (Char.ofUInt8 byte).toNat = byte.toNat :=
  rfl

theorem toNat_charValue (byte : UInt8) : (charValue (Char.ofUInt8 byte)).toNat =
      if byte.toNat < 128 then byte.toNat else byte.toNat + 65280 := by
  have bound : byte.toNat < 256 := byte.toNat_lt
  have value := toNat_ofInt
    (if byte.toNat < 128 then (byte.toNat : Int) else byte.toNat - 256)
  rw [charValue, toNat_ofUInt8]
  split at value <;> split <;> omega

theorem toNat_shifted (byte : UInt8) :
    (charValue (Char.ofUInt8 byte) <<< 8).toNat = byte.toNat * 256 := by
  have bound : byte.toNat < 256 := byte.toNat_lt
  rw [UInt16.toNat_shiftLeft, toNat_charValue, Nat.shiftLeft_eq]
  change _ * 256 % 65536 = _
  split <;> omega

theorem toNat_pair (high low : UInt8) :
    ((charValue (Char.ofUInt8 high) <<< 8) + charValue (Char.ofUInt8 low)).toNat =
      if low.toNat < 128 then high.toNat * 256 + low.toNat
      else (high.toNat + 255) % 256 * 256 + low.toNat := by
  have highBound : high.toNat < 256 := high.toNat_lt
  have lowBound : low.toNat < 256 := low.toNat_lt
  rw [UInt16.toNat_add, toNat_shifted, toNat_charValue]
  split <;> omega

theorem toUInt8_pair (high low : UInt8) :
    ((charValue (Char.ofUInt8 high) <<< 8) +
      charValue (Char.ofUInt8 low)).toUInt8 = low := by
  have lowBound : low.toNat < 256 := low.toNat_lt
  apply UInt8.toNat_inj.mp
  rw [UInt16.toNat_toUInt8, toNat_pair]
  split <;> omega

theorem toUInt8_pair_shifted (high low : UInt8) :
    (((charValue (Char.ofUInt8 high) <<< 8) +
      charValue (Char.ofUInt8 low)) >>> 8).toUInt8 =
      if low.toNat < 128 then high else high - 1 := by
  have highBound : high.toNat < 256 := high.toNat_lt
  have lowBound : low.toNat < 256 := low.toNat_lt
  apply UInt8.toNat_inj.mp
  rw [UInt16.toNat_toUInt8, UInt16.toNat_shiftRight, toNat_pair]
  change _ >>> 8 % 256 = _
  split
  · omega
  · rw [UInt8.toNat_sub]
    change _ = (256 - 1 + _) % 256
    omega

theorem toUInt8_shifted (byte : UInt8) :
    (charValue (Char.ofUInt8 byte) <<< 8).toUInt8 = 0 := by
  apply UInt8.toNat_inj.mp
  rw [UInt16.toNat_toUInt8, toNat_shifted]
  change _ = 0
  omega

theorem sub_one_ne (byte : UInt8) : byte - 1 ≠ byte := by
  intro same
  have bound : byte.toNat < 256 := byte.toNat_lt
  have equal := congrArg UInt8.toNat same
  rw [UInt8.toNat_sub] at equal
  change (256 - 1 + _) % 256 = _ at equal
  omega

/-- Every character stands twice, and is none of the upper half. -/
inductive Doubled : List UInt8 → Prop where
  | nil : Doubled []
  | cons {byte : UInt8} {rest : List UInt8} :
      byte.toNat < 128 → Doubled rest → Doubled (byte :: byte :: rest)

theorem memoryBytes_cons (register : UInt16) (registers : List UInt16) :
    memoryBytes (register :: registers) =
      register.toUInt8 :: (register >>> 8).toUInt8 :: memoryBytes registers :=
  rfl

theorem packRegisters_pair (count : Nat) (high low : UInt8)
    (bytes : List UInt8) :
    packRegisters (count + 1) (Payload.ofBytes (high :: low :: bytes)) =
      ((charValue (Char.ofUInt8 high) <<< 8) + charValue (Char.ofUInt8 low)) ::
        packRegisters count (Payload.ofBytes bytes) :=
  rfl

theorem packRegisters_single (count : Nat) (byte : UInt8) :
    packRegisters (count + 1) (Payload.ofBytes [byte]) =
      charValue (Char.ofUInt8 byte) <<< 8 :: packRegisters count [] :=
  rfl

/-- The bytes that are read back are swapped in pairs and stop at the first
null byte. -/
theorem takeWhile_memoryBytes_iff {count : Nat} {bytes : List UInt8}
    (whole : ∀ byte ∈ bytes, byte ≠ 0) (fits : bytes.length ≤ 2 * count) :
    (memoryBytes (packRegisters count (Payload.ofBytes bytes))).takeWhile
      (· ≠ 0) = bytes ↔ Doubled bytes := by
  induction count generalizing bytes with
  | zero =>
    have empty : bytes = [] := List.length_eq_zero_iff.mp (by omega)
    subst empty
    exact iff_of_true rfl .nil
  | succ count induction =>
    cases bytes with
    | nil => exact iff_of_true rfl .nil
    | cons high bytes =>
      cases bytes with
      | nil =>
        rw [packRegisters_single, memoryBytes_cons, toUInt8_shifted]
        refine iff_of_false (by simp) ?_
        intro doubled
        cases doubled
      | cons low bytes =>
        obtain ⟨highFilled, later⟩ := List.forall_mem_cons.mp whole
        obtain ⟨lowFilled, rest⟩ := List.forall_mem_cons.mp later
        have next := induction rest
          (by simp only [List.length_cons] at fits; omega)
        rw [packRegisters_pair, memoryBytes_cons, toUInt8_pair,
          toUInt8_pair_shifted,
          List.takeWhile_cons_of_pos (by simpa using lowFilled)]
        constructor
        · intro same
          obtain ⟨rfl, same⟩ := List.cons.inj same
          by_cases small : low.toNat < 128
          · rw [if_pos small, List.takeWhile_cons_of_pos
              (by simpa using lowFilled)] at same
            exact .cons small (next.mp (List.cons.inj same).2)
          · rw [if_neg small, List.takeWhile_cons] at same
            split at same
            · exact absurd (List.cons.inj same).1 (sub_one_ne low)
            · cases same
        · intro doubled
          cases doubled with
          | cons small doubled =>
            rw [if_pos small, List.takeWhile_cons_of_pos
              (by simpa using lowFilled), next.mpr doubled]

theorem ofBytes_injective : Function.Injective Payload.ofBytes := by
  refine List.map_injective_iff.mpr ?_
  intro first second same
  apply UInt8.toNat_inj.mp
  rw [← toNat_ofUInt8, same, toNat_ofUInt8]

/-- What is written is read back exactly if it consists of doubled
characters. -/
theorem string_read_back_iff (doubleMemory : MqttValue → Payload)
    {bytes : List UInt8} {count : Nat} (whole : ∀ byte ∈ bytes, byte ≠ 0)
    (fits : bytes.length ≤ 2 * count) :
    (∃ registers, (stringConverter doubleMemory).toModbus
        (.binary (Payload.ofBytes bytes)) count = .ok registers ∧
      (stringConverter doubleMemory).toMqtt registers =
        .ok (.binary (Payload.ofBytes bytes))) ↔ Doubled bytes := by
  rw [← takeWhile_memoryBytes_iff whole fits]
  constructor
  · rintro ⟨registers, written, read⟩
    cases written
    rw [Int.toNat_natCast] at read
    change toMqtt _ = _ at read
    rw [toMqtt, adapt_adapt] at read
    simp only [Except.ok.injEq, MqttValue.binary.injEq] at read
    exact ofBytes_injective read
  · intro same
    refine ⟨_, rfl, ?_⟩
    change toMqtt _ = _
    rw [toMqtt, adapt_adapt, Int.toNat_natCast]
    exact congrArg (fun text => Except.ok (MqttValue.binary
      (Payload.ofBytes text))) same

theorem string_read_back_doubled :
    ∃ registers, (stringConverter fun _ => []).toModbus
        (.binary (Payload.ofBytes [97, 97])) (1 : Nat) = .ok registers ∧
      (stringConverter fun _ => []).toMqtt registers =
        .ok (.binary (Payload.ofBytes [97, 97])) :=
  (string_read_back_iff _ (by simp) (by decide)).mpr
    (.cons (by decide) .nil)

/-- Pairs of characters come back swapped, and a single one is lost. -/
theorem strings_swapped : ((stringConverter fun _ => []).toModbus
      (.binary (Payload.ofBytes [97, 98])) 1 = .ok [0x6261] ∧
      (stringConverter fun _ => []).toMqtt [0x6261] =
        .ok (.binary (Payload.ofBytes [98, 97]))) ∧
    (stringConverter fun _ => []).toModbus
      (.binary (Payload.ofBytes [97])) 1 = .ok [0x0061] ∧
      (stringConverter fun _ => []).toMqtt [0x0061] = .ok (.binary []) := by
  decide +kernel

def byteAt (bytes : List UInt8) (index : Nat) : UInt8 :=
  bytes.getD index 0

def highByte (register : UInt16) : UInt8 :=
  (register >>> 8).toUInt8

def lowByte (register : UInt16) : UInt8 :=
  register.toUInt8

theorem packRegisters_succ (count : Nat) (bytes : List UInt8) : ∃ register,
      packRegisters (count + 1) (Payload.ofBytes bytes) =
        register :: packRegisters count (Payload.ofBytes (bytes.drop 2)) ∧
      lowByte register = byteAt bytes 1 ∧
      highByte register = if (byteAt bytes 1).toNat < 128 then byteAt bytes 0
        else byteAt bytes 0 - 1 := by
  cases bytes with
  | nil => exact ⟨0, rfl, rfl, rfl⟩
  | cons high bytes =>
    cases bytes with
    | nil =>
      refine ⟨_, packRegisters_single count high, toUInt8_shifted high, ?_⟩
      have bound : high.toNat < 256 := high.toNat_lt
      apply UInt8.toNat_inj.mp
      rw [highByte, UInt16.toNat_toUInt8, UInt16.toNat_shiftRight,
        toNat_shifted]
      change _ >>> 8 % 256 = high.toNat
      omega
    | cons low bytes =>
      exact ⟨_, packRegisters_pair count high low bytes,
        toUInt8_pair high low, toUInt8_pair_shifted high low⟩

theorem byteAt_drop (bytes : List UInt8) (index : Nat) :
    byteAt (bytes.drop 2) index = byteAt bytes (index + 2) := by
  rw [byteAt, byteAt, List.getD_eq_getElem?_getD, List.getElem?_drop,
    Nat.add_comm, ← List.getD_eq_getElem?_getD]

theorem length_packRegisters (count : Nat) (bytes : List UInt8) :
    (packRegisters count (Payload.ofBytes bytes)).length = count := by
  induction count generalizing bytes with
  | zero => rfl
  | succ count induction =>
    obtain ⟨register, packed, _⟩ := packRegisters_succ count bytes
    rw [packed, List.length_cons, induction]

theorem packRegisters_bytes {count index : Nat} (bytes : List UInt8)
    (inside : index < count) :
    ∃ register,
      (packRegisters count (Payload.ofBytes bytes))[index]? = some register ∧
      lowByte register = byteAt bytes (2 * index + 1) ∧
      highByte register = if (byteAt bytes (2 * index + 1)).toNat < 128 then
          byteAt bytes (2 * index)
        else
          byteAt bytes (2 * index) - 1 := by
  induction count generalizing bytes index with
  | zero => exact absurd inside (Nat.not_lt_zero index)
  | succ count induction =>
    obtain ⟨first, packed, firstLow, firstHigh⟩ :=
      packRegisters_succ count bytes
    cases index with
    | zero => exact ⟨first, by rw [packed]; rfl, firstLow, firstHigh⟩
    | succ index =>
      obtain ⟨register, listed, low, high⟩ :=
        induction (bytes.drop 2) (by omega : index < count)
      simp only [byteAt_drop] at low high
      exact ⟨register, by rw [packed]; exact listed, low, high⟩

theorem packRegisters_take (count : Nat) (bytes : List UInt8) :
    packRegisters count (Payload.ofBytes (bytes.take (2 * count))) =
      packRegisters count (Payload.ofBytes bytes) := by
  induction count generalizing bytes with
  | zero => rfl
  | succ count induction =>
    cases bytes with
    | nil => rw [List.take_nil]
    | cons high bytes =>
      cases bytes with
      | nil =>
        rw [List.take_of_length_le]
        simp only [List.length_singleton]
        omega
      | cons low bytes =>
        rw [show 2 * (count + 1) = 2 * count + 1 + 1 by omega,
          List.take_succ_cons, List.take_succ_cons, packRegisters_pair,
          packRegisters_pair, induction]

/-- A register holds its two bytes exactly if the lower one is not negative;
what does not fit the registers is dropped. -/
theorem string_packed_iff (doubleMemory : MqttValue → Payload)
    (bytes : List UInt8) (count : Nat) :
    ∃ registers, (stringConverter doubleMemory).toModbus
        (.binary (Payload.ofBytes bytes)) count = .ok registers ∧
      registers.length = count ∧
      (stringConverter doubleMemory).toModbus
        (.binary (Payload.ofBytes (bytes.take (2 * count)))) count =
          .ok registers ∧
      ∀ index < count, ∃ register,
        (adaptToNetworkByteOrder registers)[index]? = some register ∧
        ((highByte register = byteAt bytes (2 * index) ∧
          lowByte register = byteAt bytes (2 * index + 1)) ↔
            (byteAt bytes (2 * index + 1)).toNat < 128) := by
  refine ⟨adaptToNetworkByteOrder
    (packRegisters count (Payload.ofBytes bytes)), rfl, ?_, ?_, ?_⟩
  · rw [adaptToNetworkByteOrder, List.length_map, length_packRegisters]
  · rw [← packRegisters_take]
    rfl
  · intro index inside
    obtain ⟨register, listed, low, high⟩ := packRegisters_bytes bytes inside
    refine ⟨register, by rw [adapt_adapt]; exact listed, ?_⟩
    rw [low, high]
    constructor
    · rintro ⟨same, _⟩
      by_contra negative
      rw [if_neg negative] at same
      exact sub_one_ne _ same
    · intro small
      exact ⟨if_pos small, rfl⟩

example :
    (stringConverter fun _ => []).toModbus (.binary "0123".toList) 2 =
      .ok [0x3130, 0x3332] := by decide +kernel

/-- The bytes 0xC5 0x81, an `Ł` in UTF-8, are packed with 0xC4 as the high
byte. -/
theorem negative_byte_packed : (stringConverter fun _ => []).toModbus
      (.binary (Payload.ofBytes [0xc5, 0x81])) 1 = .ok [0x81c4] ∧
    adaptToNetworkByteOrder [0x81c4] = [0xc481] ∧
    highByte 0xc481 = 0xc4 ∧ byteAt [0xc5, 0x81] 0 = 0xc5 := by
  decide +kernel

end StringConverter

end MqmGateway
