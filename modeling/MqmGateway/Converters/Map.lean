import MqmGateway.Converters
import MqmGateway.Converters.MapSafety

/-!
# The map converter

Registers are shown as what they are mapped to, and payloads are looked up in
the order of the map.  The lookup reads the payload as an integer whenever it
passes an integer, and what it does not find is written by `std.int16`.
-/

namespace MqmGateway

namespace MqttVariant

def mqttValue : MqttVariant → MqttValue
  | .int value => .int value
  | .str text => .binary text

def text (variant : MqttVariant) : Payload :=
  variant.mqttValue.getString

end MqttVariant

namespace MapConverter

def findRegValue (mappings : List Mapping) (value : UInt16) : Option Mapping :=
  mappings.find? fun mapping => mapping.registerValue = value

/-- The first mapping of a value, unless it cannot be read as an integer where
the map has one. -/
def findVariant (value : MqttValue) :
    List Mapping → Except GatewayException (Option Mapping)
  | [] => .ok none
  | mapping :: mappings =>
    match mapping.mqttValue with
    | .int number => do
        let val ← value.getInt
        if number = val then .ok (some mapping)
        else findVariant value mappings
    | .str text =>
      if text = value.getString then .ok (some mapping)
      else findVariant value mappings

def toMqtt (mappings : List Mapping) (data : List UInt16) :
    Except GatewayException MqttValue :=
  match data with
  | [value] =>
    match findRegValue mappings value with
    | none => .ok (.int value.toNat)
    | some mapping => .ok mapping.mqttValue.mqttValue
  | _ => .error .conv

def toModbus (mappings : List Mapping) (value : MqttValue)
    (registerCount : Int) : Except GatewayException (List UInt16) :=
  if registerCount ≠ 1 then
    .error .conv
  else do
    match ← findVariant value mappings with
    | none => (int16Converter false).toModbus value registerCount
    | some mapping => .ok [mapping.registerValue]

end MapConverter

def mapConverter (mappings : List Mapping) : DataConverter :=
  { toMqtt := MapConverter.toMqtt mappings
    toModbus := MapConverter.toModbus mappings }

/-- What the parser checks of every mapping, and the values that it can
keep. -/
structure MapTable (mappings : List Mapping) : Prop where
  registers : (mappings.map Mapping.registerValue).Nodup
  values : (mappings.map Mapping.mqttValue).Nodup
  bounds : ∀ mapping ∈ mappings, ∀ number, mapping.mqttValue = .int number →
    -2147483648 ≤ number ∧ number ≤ 2147483647

namespace MapParser

variable {parser next : MapParser} {char : Char}

theorem addMapping_table (table : MapTable parser.mappings)
    (added : parser.addMapping = .ok next) : MapTable next.mappings := by
  obtain ⟨register, _, new, rfl⟩ := addMapping_added added
  refine ⟨?_, ?_, ?_⟩
  · rw [List.map_append]
    exact table.registers.append (List.nodup_singleton _)
      (List.disjoint_singleton.mpr new.register)
  · rw [List.map_append]
    exact table.values.append (List.nodup_singleton _)
      (List.disjoint_singleton.mpr new.value)
  · intro mapping listed number same
    rcases List.mem_append.mp listed with earlier | last
    · exact table.bounds mapping earlier number same
    · cases List.mem_singleton.mp last
      change parser.mqttValue = _ at same
      rw [mqttValue] at same
      split at same
      · cases same
        rw [atoi, toInt32]
        omega
      · cases same

theorem step_table (table : MapTable parser.mappings)
    (ran : parser.step char = .ok next) : MapTable next.mappings := by
  rcases step_mappings ran with same | added
  · rwa [same]
  · exact addMapping_table table added

theorem parse_table {data : Payload} {mappings : List Mapping}
    (accepted : parse data = .ok mappings) : MapTable mappings := by
  obtain ⟨last, ran, same⟩ := exists_of_bind accepted
  cases same
  have empty : MapTable ({} : MapParser).mappings :=
    ⟨List.nodup_nil, List.nodup_nil, List.forall_mem_nil _⟩
  exact @foldlM_preserves _ _ _
    (fun parser : MapParser => MapTable parser.mappings) _ _
    (fun _ _ _ _ table first => step_table table first) _ _ empty ran

end MapParser

namespace MapConverter

variable {mappings front back : List Mapping} {value : MqttValue}
  {mapping : Mapping} {register : UInt16}

def Passes (value : MqttValue) (mapping : Mapping) : Prop :=
  (∀ number, mapping.mqttValue = .int number →
    ∃ val, value.getInt = .ok val ∧ number ≠ val) ∧
  ∀ text, mapping.mqttValue = .str text → text ≠ value.getString

def Finds (value : MqttValue) (mapping : Mapping) : Prop :=
  (∀ number, mapping.mqttValue = .int number → value.getInt = .ok number) ∧
  ∀ text, mapping.mqttValue = .str text → text = value.getString

theorem findVariant_cons_of_passes (passes : Passes value mapping) :
    findVariant value (mapping :: mappings) = findVariant value mappings := by
  cases kind : mapping.mqttValue with
  | int number =>
    obtain ⟨val, read, different⟩ := passes.1 number kind
    simp only [findVariant, kind, read]
    exact if_neg different
  | str text =>
    simp only [findVariant, kind]
    exact if_neg (passes.2 text kind)

theorem findVariant_cons_of_finds (finds : Finds value mapping) :
    findVariant value (mapping :: mappings) = .ok (some mapping) := by
  cases kind : mapping.mqttValue with
  | int number =>
    simp only [findVariant, kind, finds.1 number kind]
    exact if_pos rfl
  | str text =>
    simp only [findVariant, kind]
    exact if_pos (finds.2 text kind)

theorem findVariant_append (passes : ∀ mapping ∈ front, Passes value mapping) :
    findVariant value (front ++ back) = findVariant value back := by
  induction front with
  | nil => rfl
  | cons mapping front induction =>
    obtain ⟨here, later⟩ := List.forall_mem_cons.mp passes
    rw [List.cons_append, findVariant_cons_of_passes here, induction later]

theorem findVariant_cons {found : Option Mapping}
    (ran : findVariant value (mapping :: mappings) = .ok found) :
    found = some mapping ∨ Passes value mapping := by
  cases kind : mapping.mqttValue with
  | int number =>
    simp only [findVariant, kind] at ran
    obtain ⟨val, read, ran⟩ := exists_of_bind ran
    split at ran
    · cases ran
      exact .inl rfl
    · rename_i different
      refine .inr ⟨?_, ?_⟩
      · intro other same
        cases kind.symm.trans same
        exact ⟨val, read, different⟩
      · intro text same
        cases kind.symm.trans same
  | str text =>
    simp only [findVariant, kind] at ran
    split at ran
    · cases ran
      exact .inl rfl
    · rename_i different
      refine .inr ⟨?_, ?_⟩
      · intro number same
        cases kind.symm.trans same
      · intro other same
        cases kind.symm.trans same
        exact different

theorem findVariant_split {found : Option Mapping}
    (ran : findVariant value mappings = .ok found) :
    ∃ front back, mappings = front ++ back ∧
      (∀ earlier ∈ front, Passes value earlier) ∧ back.head? = found := by
  induction mappings with
  | nil =>
    cases ran
    exact ⟨[], [], rfl, List.forall_mem_nil _, rfl⟩
  | cons mapping mappings induction =>
    rcases findVariant_cons ran with rfl | passes
    · exact ⟨[], mapping :: mappings, rfl, List.forall_mem_nil _, rfl⟩
    · rw [findVariant_cons_of_passes passes] at ran
      obtain ⟨front, back, rfl, earlier, first⟩ := induction ran
      exact ⟨mapping :: front, back, rfl,
        List.forall_mem_cons.mpr ⟨passes, earlier⟩, first⟩

theorem findRegValue_of_mem (table : MapTable mappings)
    (listed : mapping ∈ mappings) :
    findRegValue mappings mapping.registerValue = some mapping := by
  cases found : findRegValue mappings mapping.registerValue with
  | none =>
    have unequal := List.find?_eq_none.mp found mapping listed
    simp at unequal
  | some other =>
    have same : other.registerValue = mapping.registerValue := by
      simpa using List.find?_some found
    rw [List.inj_on_of_nodup_map table.registers
      (List.mem_of_find?_eq_some found) listed same]

theorem findRegValue_of_not_mem
    (unmapped : register ∉ mappings.map Mapping.registerValue) :
    findRegValue mappings register = none := by
  rw [findRegValue, List.find?_eq_none]
  intro mapping listed same
  exact unmapped (List.mem_map.mpr ⟨mapping, listed, by simpa using same⟩)

theorem toMqtt_of_mem (table : MapTable mappings)
    (listed : mapping ∈ mappings) :
    toMqtt mappings [mapping.registerValue] =
      .ok mapping.mqttValue.mqttValue := by
  simp only [toMqtt, findRegValue_of_mem table listed]

theorem toMqtt_of_not_mem
    (unmapped : register ∉ mappings.map Mapping.registerValue) :
    toMqtt mappings [register] = .ok (.int register.toNat) := by
  simp only [toMqtt, findRegValue_of_not_mem unmapped]

/-- The published text comes back as the register it was read from. -/
def Inverts (mappings : List Mapping) (register : UInt16) : Prop :=
  ∃ published, (mapConverter mappings).toMqtt [register] = .ok published ∧
    (mapConverter mappings).toModbus (.binary published.getString) 1 =
      .ok [register]

/-- Mapped, or without a mapping that has its decimal text. -/
def Distinguished (mappings : List Mapping) (register : UInt16) : Prop :=
  register ∈ mappings.map Mapping.registerValue ∨
    register ∉ mappings.map Mapping.registerValue ∧
      ∀ mapping ∈ mappings, mapping.mqttValue.text ≠ intText register.toNat

/-- Nothing in front of the mapping of a register stops the lookup of its
value: the text of an integer is no string there, and a string is an integer
other than those there.  Registers without a mapping have 15 bits. -/
inductive Recognised (mappings : List Mapping) (register : UInt16) : Prop where
  | int (front back : List Mapping) (number : Int)
      (parts : mappings = front ++ ⟨register, .int number⟩ :: back)
      (unlike : ∀ mapping ∈ front, mapping.mqttValue ≠ .str (intText number))
  | str (front back : List Mapping) (text : Payload)
      (parts : mappings = front ++ ⟨register, .str text⟩ :: back)
      (unlike : ∀ mapping ∈ front, ∀ number,
        mapping.mqttValue = .int number →
          ∃ value, (MqttValue.binary text).getInt = .ok value ∧
            number ≠ value)
  | unmapped (free : register ∉ mappings.map Mapping.registerValue)
      (small : register.toNat ≤ 32767)

theorem toModbus_of_findVariant {found : Option Mapping}
    (ran : findVariant value mappings = .ok found) :
    toModbus mappings value 1 =
      found.elim ((int16Converter false).toModbus value 1)
        fun mapping => .ok [mapping.registerValue] := by
  rw [toModbus, if_neg (by decide), ran]
  cases found with
  | none => rfl
  | some mapping => rfl

theorem int16_of_register (register : UInt16) :
    (int16Converter false).toModbus (.binary (intText register.toNat)) 1 =
      if register.toNat ≤ 32767 then .ok [register] else .error .conv := by
  have bound : register.toNat < 65536 := register.toNat_lt
  have read : (MqttValue.binary (intText register.toNat)).getInt =
      .ok register.toNat := MqttValue.getInt_intText (by omega) (by omega)
  simp only [int16Converter, singleRegisterConverter, read]
  change (if _ then _ else _) = _
  by_cases small : register.toNat ≤ 32767
  · have same : UInt16.ofInt register.toNat = register := by
      apply UInt16.toNat_inj.mp
      have unchanged := toNat_ofInt register.toNat
      omega
    rw [if_neg (by omega), if_pos small, same]
    rfl
  · rw [if_pos (by omega), if_neg small]

theorem not_passes_of_finds (finds : Finds value mapping) :
    ¬ Passes value mapping := by
  intro passes
  cases kind : mapping.mqttValue with
  | int number =>
    obtain ⟨val, read, different⟩ := passes.1 number kind
    cases (finds.1 number kind).symm.trans read
    exact different rfl
  | str text => exact passes.2 text kind (finds.2 text kind)

section Tables

variable (table : MapTable mappings)

include table

theorem finds_own_text (listed : mapping ∈ mappings) :
    Finds (.binary mapping.mqttValue.text) mapping := by
  refine ⟨?_, ?_⟩
  · intro number kind
    obtain ⟨lower, upper⟩ := table.bounds mapping listed number kind
    rw [kind]
    exact MqttValue.getInt_intText lower upper
  · intro text kind
    rw [kind]
    rfl

/-- A mapped register comes back if the lookup passes everything in front of
its mapping. -/
theorem inverts_iff_of_mem (listed : mapping ∈ mappings) :
    Inverts mappings mapping.registerValue ↔
      ∃ front back, mappings = front ++ mapping :: back ∧ ∀ earlier ∈ front,
          Passes (.binary mapping.mqttValue.text) earlier := by
  have finds := finds_own_text table listed
  constructor
  · rintro ⟨published, shown, written⟩
    cases (toMqtt_of_mem table listed).symm.trans shown
    change toModbus mappings (.binary mapping.mqttValue.text) 1 = _ at written
    cases ran : findVariant (.binary mapping.mqttValue.text) mappings with
    | error exception =>
      rw [toModbus, if_neg (by decide), ran] at written
      cases written
    | ok found =>
      rw [toModbus_of_findVariant ran] at written
      obtain ⟨front, back, parts, passed, first⟩ := findVariant_split ran
      cases back with
      | nil =>
        rw [List.append_nil] at parts
        exact absurd (passed mapping (parts ▸ listed))
          (not_passes_of_finds finds)
      | cons other back =>
        subst first
        have same : other.registerValue = mapping.registerValue := by
          simpa using written
        have member : other ∈ mappings := by simp [parts]
        cases List.inj_on_of_nodup_map table.registers member listed same
        exact ⟨front, back, parts, passed⟩
  · rintro ⟨front, back, parts, passed⟩
    have found : findVariant (.binary mapping.mqttValue.text) mappings =
        .ok (some mapping) := by
      rw [parts, findVariant_append passed, findVariant_cons_of_finds finds]
    exact ⟨mapping.mqttValue.mqttValue, toMqtt_of_mem table listed,
      toModbus_of_findVariant found⟩

theorem value_ne (parts : mappings = front ++ mapping :: back)
    {earlier : Mapping} (listed : earlier ∈ front) :
    earlier.mqttValue ≠ mapping.mqttValue := by
  have distinct := table.values
  rw [parts, List.map_append, List.map_cons] at distinct
  intro same
  have inFront := List.mem_map_of_mem (f := Mapping.mqttValue) listed
  rw [same] at inFront
  exact List.disjoint_of_nodup_append distinct inFront List.mem_cons_self

theorem passes_int_iff {number : Int}
    (parts : mappings = front ++ ⟨register, .int number⟩ :: back) :
    (∀ earlier ∈ front, Passes (.binary (intText number)) earlier) ↔
      ∀ earlier ∈ front, earlier.mqttValue ≠ .str (intText number) := by
  have listed : ⟨register, .int number⟩ ∈ mappings := by simp [parts]
  obtain ⟨lower, upper⟩ := table.bounds _ listed number rfl
  constructor
  · intro passed earlier member same
    exact (passed earlier member).2 _ same rfl
  · intro unlike earlier member
    refine ⟨?_, ?_⟩
    · intro other kind
      refine ⟨number, MqttValue.getInt_intText lower upper, ?_⟩
      rintro rfl
      exact value_ne table parts member kind
    · rintro text kind rfl
      exact unlike earlier member kind

theorem passes_str_iff {text : Payload}
    (parts : mappings = front ++ ⟨register, .str text⟩ :: back) :
    (∀ earlier ∈ front, Passes (.binary text) earlier) ↔
      ∀ earlier ∈ front, ∀ number, earlier.mqttValue = .int number →
        ∃ value, (MqttValue.binary text).getInt = .ok value ∧
          number ≠ value := by
  constructor
  · intro passed earlier member
    exact (passed earlier member).1
  · intro unlike earlier member
    refine ⟨unlike earlier member, ?_⟩
    rintro other kind rfl
    exact value_ne table parts member kind

end Tables

/-- The lookup passes everything, so the register is left to `std.int16`. -/
theorem inverts_iff_of_not_mem
    (free : register ∉ mappings.map Mapping.registerValue)
    (unlike : ∀ mapping ∈ mappings,
      mapping.mqttValue.text ≠ intText register.toNat) :
    Inverts mappings register ↔ register.toNat ≤ 32767 := by
  have bound : register.toNat < 65536 := register.toNat_lt
  have passed : ∀ mapping ∈ mappings,
      Passes (.binary (intText register.toNat)) mapping := by
    intro mapping listed
    refine ⟨?_, ?_⟩
    · intro number kind
      refine ⟨register.toNat,
        MqttValue.getInt_intText (by omega) (by omega), ?_⟩
      rintro rfl
      exact unlike mapping listed (by rw [kind]; rfl)
    · rintro text kind rfl
      exact unlike mapping listed (by rw [kind]; rfl)
  have none : findVariant (.binary (intText register.toNat)) mappings =
      .ok none := by
    have all := @findVariant_append mappings [] _ passed
    rwa [List.append_nil] at all
  have written : toModbus mappings (.binary (intText register.toNat)) 1 =
      if register.toNat ≤ 32767 then .ok [register] else .error .conv := by
    rw [toModbus_of_findVariant none]
    exact int16_of_register register
  constructor
  · rintro ⟨published, shown, back⟩
    cases (toMqtt_of_not_mem free).symm.trans shown
    by_contra large
    cases ((if_neg large ▸ written).symm.trans back)
  · intro small
    rw [if_pos small] at written
    exact ⟨.int register.toNat, toMqtt_of_not_mem free, written⟩

/-- Accepted maps invert themselves on the registers that they recognise. -/
theorem map_inverts_iff {data : Payload} {mappings : List Mapping}
    {register : UInt16} (accepted : MapParser.parse data = .ok mappings)
    (domain : Distinguished mappings register) :
    Inverts mappings register ↔ Recognised mappings register := by
  have table := MapParser.parse_table accepted
  constructor
  · intro inverts
    rcases domain with mapped | ⟨free, unlike⟩
    · obtain ⟨⟨_, variant⟩, listed, rfl⟩ := List.mem_map.mp mapped
      obtain ⟨front, back, parts, passed⟩ :=
        (inverts_iff_of_mem table listed).mp inverts
      cases variant with
      | int number =>
        exact .int front back number parts
          ((passes_int_iff table parts).mp passed)
      | str text =>
        exact .str front back text parts
          ((passes_str_iff table parts).mp passed)
    · exact .unmapped free ((inverts_iff_of_not_mem free unlike).mp inverts)
  · intro recognised
    cases recognised with
    | int front back number parts unlike =>
      exact (inverts_iff_of_mem table (by simp [parts])).mpr
        ⟨front, back, parts, (passes_int_iff table parts).mpr unlike⟩
    | str front back text parts unlike =>
      exact (inverts_iff_of_mem table (by simp [parts])).mpr
        ⟨front, back, parts, (passes_str_iff table parts).mpr unlike⟩
    | unmapped free small =>
      rcases domain with mapped | ⟨_, unlike⟩
      · exact absurd mapped free
      · exact (inverts_iff_of_not_mem free unlike).mpr small

theorem map_inverts_two : MapParser.parse "\x7b2:\"two\",1:11\x7d".toList =
      .ok [⟨2, .str "two".toList⟩, ⟨1, .int 11⟩] ∧
    ∀ register ∈ [2, 1, 7],
      Inverts [⟨2, .str "two".toList⟩, ⟨1, .int 11⟩] register := by
  have accepted : MapParser.parse "\x7b2:\"two\",1:11\x7d".toList =
      .ok [⟨2, .str "two".toList⟩, ⟨1, .int 11⟩] := by decide +kernel
  have free : 7 ∉ [⟨2, .str "two".toList⟩, ⟨1, .int 11⟩].map
      Mapping.registerValue := by decide
  refine ⟨accepted, ?_⟩
  intro register listed
  simp only [List.mem_cons, List.not_mem_nil, or_false] at listed
  rcases listed with rfl | rfl | rfl
  · exact (map_inverts_iff accepted (.inl (by decide))).mpr
      (.str [] _ _ rfl (List.forall_mem_nil _))
  · exact (map_inverts_iff accepted (.inl (by decide))).mpr
      (.int [_] [] 11 rfl (by decide +kernel))
  · refine (map_inverts_iff accepted (.inr ⟨free, ?_⟩)).mpr
      (.unmapped free (by decide))
    refine List.forall_mem_cons.mpr ⟨by decide +kernel, ?_⟩
    exact List.forall_mem_singleton.mpr (by decide +kernel)

theorem not_inverts {published : MqttValue}
    (shown : toMqtt mappings [register] = .ok published)
    (different : toModbus mappings (.binary published.getString) 1 ≠
      .ok [register]) : ¬ Inverts mappings register := by
  rintro ⟨other, again, written⟩
  cases shown.symm.trans again
  exact different written

/-- A string behind an integer is refused, an integer behind a string of the
same text is taken for the string, and registers of 16 bits are out of
range. -/
theorem maps_not_inverted : (MapParser.parse "\x7b1:11,2:\"two\"\x7d".toList =
      .ok [⟨1, .int 11⟩, ⟨2, .str "two".toList⟩] ∧
      toModbus [⟨1, .int 11⟩, ⟨2, .str "two".toList⟩]
        (.binary "two".toList) 1 = .error .conv ∧
      ¬ Inverts [⟨1, .int 11⟩, ⟨2, .str "two".toList⟩] 2) ∧
    (MapParser.parse "\x7b1:\"5\",2:5\x7d".toList =
      .ok [⟨1, .str "5".toList⟩, ⟨2, .int 5⟩] ∧
      toModbus [⟨1, .str "5".toList⟩, ⟨2, .int 5⟩] (.binary "5".toList) 1 =
        .ok [1] ∧
      ¬ Inverts [⟨1, .str "5".toList⟩, ⟨2, .int 5⟩] 2) ∧
    (MapParser.parse "\x7b1:11\x7d".toList = .ok [⟨1, .int 11⟩] ∧
      toModbus [⟨1, .int 11⟩] (.binary "40000".toList) 1 = .error .conv ∧
      ¬ Inverts [⟨1, .int 11⟩] 40000) := by
  refine ⟨⟨by decide +kernel, by decide +kernel, ?_⟩,
    ⟨by decide +kernel, by decide +kernel, ?_⟩,
    by decide +kernel, by decide +kernel, ?_⟩
  · exact not_inverts rfl (by decide +kernel)
  · exact not_inverts rfl (by decide +kernel)
  · exact not_inverts rfl (by decide +kernel)

end MapConverter

end MqmGateway
