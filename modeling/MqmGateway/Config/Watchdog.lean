import MqmGateway.Config.PollRouting

/-!
# The watchdog of a network

The constructor of `ModbusNetworkConfig` reads all optional timespans through
one local variable.  An option that is missing leaves in it what was read
before, or what happened to be there.  The device path of the watchdog is left
out: nothing here reads it.
-/

namespace MqmGateway

structure ModbusWatchdogConfig where
  autoWatchPeriod : Bool := true
  watchPeriod : Duration := 10000000000
deriving DecidableEq, Repr

namespace ModMqtt

open ConfigTools

variable (libraries : LoaderLibraries)

/-- `readOptionalValue` with its destination: what is in it afterwards, and
whether the value was there. -/
def readOptionalInto {α : Type} (decode : String → Except String α)
    (dest : α) (parent : YamlNode) (name : String) :
    Except String (α × Bool) := do
  let given ← readOptionalValue decode parent name
  .ok (given.getD dest, given.isSome)

variable {α : Type} {decode : String → Except String α} {parent : YamlNode}
  {name : String}

theorem exists_of_readOptionalInto {dest : α} {read : α × Bool}
    (ran : readOptionalInto decode dest parent name = .ok read) :
    ∃ given, readOptionalValue decode parent name = .ok given ∧
      (given.getD dest, given.isSome) = read := by
  obtain ⟨given, found, same⟩ := exists_of_bind ran
  exact ⟨given, found, Except.ok.inj same⟩

def readWatchdog (tmpval : Int) (source : YamlNode) :
    Except String ModbusWatchdogConfig :=
  match source.member? "watchdog" with
  | none => .ok {}
  | some (.scalar _) => .error "operator[] call on a scalar"
  | some watchdog => do
      let (tmpval, _) ← readOptionalInto decodeMilliseconds tmpval watchdog
        "watch_period"
      .ok { autoWatchPeriod := false, watchPeriod := tmpval * 1000000 }

/-- The constructor of `ModbusNetworkConfig` with its local variable, whose
first value is not determined. -/
def modbusNetworkConfig (uninitialized : Int) (source : YamlNode) :
    Except String (NetworkSettings × ModbusWatchdogConfig) := do
  let name ← readRequiredString source "name"
  checkTimeout source "response_timeout"
  checkTimeout source "response_data_timeout"
  let (tmpval, given) ← readOptionalInto decodeMilliseconds uninitialized
    source "min_delay_before_poll"
  let delay := if given then some (tmpval * 1000000) else none
  let (tmpval, given) ← readOptionalInto decodeMilliseconds tmpval source
    "delay_before_command"
  let delay := if given then some (tmpval * 1000000) else delay
  let (tmpval, given) ← readOptionalInto decodeMilliseconds tmpval source
    "delay_before_first_command"
  let firstDelay := if given then some (tmpval * 1000000) else none
  let writeRetries ← readOptionalValue libraries.asUnsignedShort source
    "write_retries"
  let readRetries ← readOptionalValue libraries.asUnsignedShort source
    "read_retries"
  checkConnection libraries source
  let watchdog ← readWatchdog tmpval source
  .ok
    ({ name
       delayBeforeCommand := delay
       delayBeforeFirstCommand := firstDelay
       maxReadRetryCount := readRetries.getD 1
       maxWriteRetryCount := writeRetries.getD 2 },
      watchdog)

theorem isSome_of_readOptionalValue {given : Option α}
    (read : readOptionalValue decode parent name = .ok given) :
    (parent.member? name).isSome = given.isSome := by
  rw [readOptionalValue] at read
  split at read
  · rename_i absent
    cases read
    rw [absent]
    rfl
  · rename_i text found
    rw [found]
    cases decoded : decode text with
    | error message =>
      rw [decoded] at read
      cases read
    | ok value =>
      rw [decoded] at read
      cases read
      rfl
  · cases read

/-- The section names a period. -/
def PeriodGiven (source : YamlNode) : Prop :=
  ∃ watchdog, source.member? "watchdog" = some watchdog ∧
    (watchdog.member? "watch_period").isSome = true

theorem readDelay_eq (source : YamlNode) (name : String) (dest : Int) :
    readDelay source name =
      (readOptionalInto decodeMilliseconds dest source name).map fun read =>
        if read.2 then some (read.1 * 1000000) else none := by
  rw [readDelay, readOptionalInto]
  cases readOptionalValue decodeMilliseconds source name with
  | error message => rfl
  | ok given => cases given <;> rfl

theorem checkWatchdog_eq (tmpval : Int) (source : YamlNode) :
    checkWatchdog source = (readWatchdog tmpval source).map fun _ => () := by
  rw [checkWatchdog, readWatchdog]
  cases source.member? "watchdog" with
  | none => rfl
  | some watchdog =>
    cases watchdog with
    | scalar text => rfl
    | _ =>
      simp only [readOptionalInto]
      cases readOptionalValue decodeMilliseconds _ "watch_period" <;> rfl

theorem readNetworkConfig_eq (uninitialized : Int) (source : YamlNode) :
    readNetworkConfig libraries source =
      (modbusNetworkConfig libraries uninitialized source).map Prod.fst := by
  rw [readNetworkConfig, modbusNetworkConfig]
  refine bind_eq_map_bind fun name => ?_
  refine bind_eq_map_bind fun _ => ?_
  refine bind_eq_map_bind fun _ => ?_
  rw [readDelay_eq source "min_delay_before_poll" uninitialized, bind_map]
  refine bind_eq_map_bind fun old => ?_
  rw [readDelay_eq source "delay_before_command" old.1, bind_map]
  refine bind_eq_map_bind fun current => ?_
  rw [readDelay_eq source "delay_before_first_command" current.1, bind_map]
  refine bind_eq_map_bind fun first => ?_
  refine bind_eq_map_bind fun writeRetries => ?_
  refine bind_eq_map_bind fun readRetries => ?_
  refine bind_eq_map_bind fun _ => ?_
  rw [checkWatchdog_eq first.1, bind_map]
  refine bind_eq_map_bind fun watchdog => ?_
  cases current.2 <;> rfl

variable {libraries}

section Accepted

variable {uninitialized : Int} {source : YamlNode}
  {settings : NetworkSettings} {watchdog : ModbusWatchdogConfig}

theorem exists_readWatchdog
    (accepted : modbusNetworkConfig libraries uninitialized source =
      .ok (settings, watchdog)) :
    ∃ old delay first,
      readOptionalValue decodeMilliseconds source "min_delay_before_poll" =
        .ok old ∧
      readOptionalValue decodeMilliseconds source "delay_before_command" =
        .ok delay ∧
      readOptionalValue decodeMilliseconds source
        "delay_before_first_command" = .ok first ∧
      readWatchdog (first.getD (delay.getD (old.getD uninitialized)))
        source = .ok watchdog := by
  obtain ⟨_, _, accepted⟩ := exists_of_bind accepted
  obtain ⟨_, _, accepted⟩ := exists_of_bind accepted
  obtain ⟨_, _, accepted⟩ := exists_of_bind accepted
  obtain ⟨_, oldRead, accepted⟩ := exists_of_bind accepted
  obtain ⟨old, oldGiven, rfl⟩ := exists_of_readOptionalInto oldRead
  obtain ⟨_, delayRead, accepted⟩ := exists_of_bind accepted
  obtain ⟨delay, delayGiven, rfl⟩ := exists_of_readOptionalInto delayRead
  obtain ⟨_, firstRead, accepted⟩ := exists_of_bind accepted
  obtain ⟨first, firstGiven, rfl⟩ := exists_of_readOptionalInto firstRead
  obtain ⟨_, _, accepted⟩ := exists_of_bind accepted
  obtain ⟨_, _, accepted⟩ := exists_of_bind accepted
  obtain ⟨_, _, accepted⟩ := exists_of_bind accepted
  obtain ⟨_, read, same⟩ := exists_of_bind accepted
  cases same
  exact ⟨old, delay, first, oldGiven, delayGiven, firstGiven, read⟩

theorem readWatchdog_cases {tmpval : Int}
    (read : readWatchdog tmpval source = .ok watchdog) :
    (source.member? "watchdog" = none ∧ watchdog = {}) ∨
      ∃ node given, source.member? "watchdog" = some node ∧
        readOptionalValue decodeMilliseconds node "watch_period" = .ok given ∧
        watchdog = ⟨false, given.getD tmpval * 1000000⟩ := by
  rw [readWatchdog] at read
  split at read
  · cases read
    exact .inl ⟨‹_›, rfl⟩
  · cases read
  · rename_i node _ found
    obtain ⟨_, periodRead, same⟩ := exists_of_bind read
    obtain ⟨given, periodGiven, rfl⟩ := exists_of_readOptionalInto periodRead
    cases same
    exact .inr ⟨node, given, found, periodGiven, rfl⟩

end Accepted

/-- The watchdog follows from its section alone, and stays in automatic mode
unless a period is given, exactly if the section is missing or gives one. -/
theorem watchdog_from_section_iff {uninitialized otherUninitialized : Int}
    {source other : YamlNode} {settings otherSettings : NetworkSettings}
    {watchdog otherWatchdog : ModbusWatchdogConfig}
    (accepted : modbusNetworkConfig libraries uninitialized source =
      .ok (settings, watchdog))
    (otherAccepted : modbusNetworkConfig libraries otherUninitialized other =
      .ok (otherSettings, otherWatchdog))
    (same : source.member? "watchdog" = other.member? "watchdog") :
    (watchdog.watchPeriod = otherWatchdog.watchPeriod ∧
        watchdog.autoWatchPeriod = otherWatchdog.autoWatchPeriod ∧
        (¬PeriodGiven source → watchdog.autoWatchPeriod = true)) ↔
      (source.member? "watchdog" = none ∨ PeriodGiven source) := by
  obtain ⟨_, _, _, _, _, _, read⟩ := exists_readWatchdog accepted
  obtain ⟨_, _, _, _, _, _, otherRead⟩ := exists_readWatchdog otherAccepted
  have otherCases := readWatchdog_cases otherRead
  rw [← same] at otherCases
  rcases readWatchdog_cases read with
    ⟨absent, rfl⟩ | ⟨node, given, found, period, rfl⟩
  · rw [absent] at otherCases
    rcases otherCases with ⟨_, rfl⟩ | ⟨_, _, otherFound, _⟩
    · exact iff_of_true ⟨rfl, rfl, fun _ => rfl⟩ (.inl absent)
    · cases otherFound
  · rw [found] at otherCases
    rcases otherCases with
      ⟨otherAbsent, _⟩ | ⟨_, otherGiven, otherFound, otherPeriod, rfl⟩
    · cases otherAbsent
    cases otherFound
    rw [period] at otherPeriod
    cases otherPeriod
    have mentioned : PeriodGiven source ↔ given.isSome = true := by
      rw [← isSome_of_readOptionalValue period]
      constructor
      · rintro ⟨listed, here, shown⟩
        rw [found] at here
        cases here
        exact shown
      · intro shown
        exact ⟨node, found, shown⟩
    rw [mentioned]
    cases given with
    | none => simp [found]
    | some value => simp

def watchedNetwork (watchdog : YamlNode)
    (delays : List (String × YamlNode)) : YamlNode :=
  .map ([("name", .scalar "net"), ("address", .scalar "localhost"),
    ("port", .scalar "502"), ("watchdog", watchdog)] ++ delays)

theorem watchdog_from_section_period :
    ∃ settings otherSettings watchdog otherWatchdog,
      modbusNetworkConfig Loaded.numberLibraries 0
          (watchedNetwork (.map [("watch_period", .scalar "30s")]) []) =
        .ok (settings, watchdog) ∧
      modbusNetworkConfig Loaded.numberLibraries 7
          (watchedNetwork (.map [("watch_period", .scalar "30s")])
            [("delay_before_command", .scalar "5s")]) =
        .ok (otherSettings, otherWatchdog) ∧
      watchdog.watchPeriod = otherWatchdog.watchPeriod ∧
      watchdog.autoWatchPeriod = otherWatchdog.autoWatchPeriod := by
  obtain ⟨⟨settings, watchdog⟩, accepted, _⟩ := exists_of_toOption_any
    (show ((modbusNetworkConfig Loaded.numberLibraries 0
      (watchedNetwork (.map [("watch_period", .scalar "30s")])
        [])).toOption.any fun _ => true) = true by decide +kernel)
  obtain ⟨⟨otherSettings, otherWatchdog⟩, otherAccepted, _⟩ :=
    exists_of_toOption_any
      (show ((modbusNetworkConfig Loaded.numberLibraries 7
        (watchedNetwork (.map [("watch_period", .scalar "30s")])
          [("delay_before_command", .scalar "5s")])).toOption.any
            fun _ => true) = true by decide +kernel)
  obtain ⟨period, automatic, _⟩ :=
    (watchdog_from_section_iff accepted otherAccepted rfl).mpr
      (.inr ⟨_, rfl, rfl⟩)
  exact ⟨settings, otherSettings, watchdog, otherWatchdog, accepted,
    otherAccepted, period, automatic⟩

/-- With an empty section, the period is the delay of the network, or was in
the variable, and automatic mode is off. -/
theorem watchdog_takes_delay : ((modbusNetworkConfig Loaded.numberLibraries 0
        (watchedNetwork (.map [])
          [("delay_before_command", .scalar "20ms")])).toOption.map Prod.snd =
      some ⟨false, 20000000⟩) ∧
    ((modbusNetworkConfig Loaded.numberLibraries 0 (watchedNetwork (.map [])
          [("delay_before_command", .scalar "5s")])).toOption.map Prod.snd =
      some ⟨false, 5000000000⟩) ∧
    ((modbusNetworkConfig Loaded.numberLibraries 7
        (watchedNetwork (.map []) [])).toOption.map Prod.snd =
      some ⟨false, 7000000⟩) := by
  decide +kernel

end ModMqtt

end MqmGateway
