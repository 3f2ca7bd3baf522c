import HardwareMediatek.Thermal.Emulation
import HardwareMediatek.Thermal.Temperature
import HardwareMediatek.Thermal.Watcher

/-!
# Runs of the thermal helper

Commands for emulation, readings by other threads and passes of the watcher, one after the other. In a
pass every reading goes on with the models as the readings before it have left them. What a step meets
outside, the files, the clock and the events, belongs to the step.
-/

namespace HardwareMediatek.Thermal

/-- What the helper is configured with, and fuel for the recursions over it. -/
structure HelperConfig where
  sensorInfoMap : SensorInfoMap
  coolingDeviceInfoMap : CdevInfoMap
  powerRailSwitchMap : UnorderedMap String (List String)
  fuel : ℕ

/-- What the helper keeps from one step to the next, with the state of the models as `helpers`. -/
structure ThermalHelperImpl (σ : Type) where
  sensorStatusMap : SensorStatusMap
  throttling : ThermalThrottling
  powerFiles : PowerFiles
  helpers : σ

/-- A pass in progress, with the calls that have been made to read sensors. -/
structure WatchState (σ : Type) where
  pass : PassState
  helpers : σ
  calls : List ReadCall

/-- How sensors are read in an environment. -/
abbrev Reader (ε σ : Type) := ReadEnv ε → Bool → Read σ

/-- Sensors are read as the helper reads them. -/
def HelperConfig.reader {ε : Type} (config : HelperConfig) : Reader ε ε :=
  fun env forceNoCache ↦ readThermalSensor env forceNoCache config.fuel

/-- What a pass meets, and what the reading of each sensor meets. -/
structure PassWorld (ε : Type) where
  env : PassEnv
  reading : String → ReadEnv ε

def HelperConfig.readEnv {ε : Type} (config : HelperConfig) (throttling : ThermalThrottling)
    (powerFiles : PowerFiles) (world : ReadEnv ε) : ReadEnv ε :=
  { world with
    sensorInfoMap := config.sensorInfoMap
    powerStatusMap := powerFiles.powerStatusMap
    cdevMaxRequest := fun cdev ↦ (getCdevMaxRequest throttling.cdevAllRequestMap cdev).toOption.join }

def HelperConfig.passEnv (config : HelperConfig) (env : PassEnv) : PassEnv :=
  { env with
    sensorInfoMap := config.sensorInfoMap
    coolingDeviceInfoMap := config.coolingDeviceInfoMap
    powerRailSwitchMap := config.powerRailSwitchMap }

def liftChecked {α : Type} : Checked α → Except Halt α
  | .ok x => .ok x
  | .error fault => .error (.fault fault)

section Pass

variable {ε σ : Type}

/-- A reading in a pass. -/
abbrev WatchRead (σ : Type) :=
  WatchState σ → String → Bool → Except Halt (WatchState σ × ReadOutcome Temperature)

/-- A sensor that is due, as in `updateSensor`. -/
def updateSensorBy (env : PassEnv) (read : WatchRead σ) (name : String) (info : SensorInfo)
    (cause : UpdateCause) (maxThrottling : Bool) (sleepMs : ℤ) (w : WatchState σ) :
    Except Halt (WatchState σ × Option ℤ) := do
  let (w, outcome) ← read w name cause.forceNoCache
  match outcome with
  | .okay temp => do
    let (s, sleepMs) ← liftChecked (notifySensor env name info temp sleepMs w.pass)
    let s ← liftChecked (throttleSensor env name info temp cause.timeElapsedMs maxThrottling s)
    pure ({ w with pass := s }, some sleepMs)
  | _ => pure (w, none)

/-- A watched sensor, as in `watchSensor`. -/
def watchSensorBy (env : PassEnv) (read : WatchRead σ) (name : String) (info : SensorInfo)
    (w : WatchState σ) : Except Halt (WatchState σ × Option ℤ) := do
  let status ← liftChecked (atKey w.pass.sensorStatusMap name)
  let sleepMs ← liftChecked (sleepDelay w.pass.sensorStatusMap info status)
  let cause := updateCause env name info status sleepMs
  let override := status.overrideStatus
  let w := { w with
    pass := { w.pass with
      sensorStatusMap := w.pass.sensorStatusMap.assign name
        { status with overrideStatus := { override with pendingUpdate := false } } } }
  if cause.forceUpdate || override.pendingUpdate then
    updateSensorBy env read name info cause override.maxThrottling sleepMs w
  else pure (w, some (sleepMs - cause.timeElapsedMs))

/-- One round of the loop over the sensors, as in `visitSensor`. -/
def visitSensorBy (env : PassEnv) (read : WatchRead σ) (name : String) (w : WatchState σ) :
    Except Halt (WatchState σ × Option ℤ) := do
  let info ← liftChecked (atKey env.sensorInfoMap name)
  if info.isWatch then watchSensorBy env read name info w else pure (w, none)

/-- The temperature of a sensor, read in the state of the helper. -/
def HelperConfig.readNow (config : HelperConfig) (reader : Reader ε σ) (world : ReadEnv ε)
    (throttling : ThermalThrottling) (powerFiles : PowerFiles) (sensorStatusMap : SensorStatusMap)
    (helpers : σ) (name : String) (forceNoCache : Bool) :
    Except Halt (ReadState σ × ReadOutcome Temperature) :=
  readTemperature config.sensorInfoMap (reader (config.readEnv throttling powerFiles world)) config.fuel
    (startReading sensorStatusMap helpers) name forceNoCache

def HelperConfig.readInPass (config : HelperConfig) (reader : Reader ε σ)
    (reading : String → ReadEnv ε) : WatchRead σ := fun w name forceNoCache ↦ do
  let (final, outcome) ← config.readNow reader (reading name) w.pass.throttling w.pass.powerFiles
    w.pass.sensorStatusMap w.helpers name forceNoCache
  pure (⟨{ w.pass with sensorStatusMap := final.sensorStatusMap }, final.helpers,
    w.calls ++ final.calls⟩, outcome)

def visitSensorsBy (env : PassEnv) (read : WatchRead σ) (names : List String) (w : WatchState σ) :
    Except Halt (WatchState σ) :=
  names.foldlM (fun w name ↦ do
    let (w, vote) ← visitSensorBy env read name w
    pure { w with pass := castVote w.pass vote }) w

/-- A whole pass, with the calls that read sensors. Its reports and writes can end the program. -/
def HelperConfig.runPass (config : HelperConfig) (reader : Reader ε σ) (world : PassWorld ε)
    (state : ThermalHelperImpl σ) : Except Halt (ThermalHelperImpl σ × List ReadCall) := do
  let env := config.passEnv world.env
  let start := startPass env state.sensorStatusMap state.throttling state.powerFiles
  let w ← visitSensorsBy env (config.readInPass reader world.reading) start.sensorStatusMap.keys
    ⟨start, state.helpers, []⟩
  let _ ← liftChecked (forEach (reportTemp env.sensorInfoMap) w.pass.temps ⟨[], [], []⟩)
  let _ ← liftChecked (updateCoolingDevices env.coolingDeviceInfoMap
    w.pass.throttling.cdevAllRequestMap env.writeSucceeds w.pass.coolingDevicesToUpdate)
  pure (⟨w.pass.sensorStatusMap, w.pass.throttling, w.pass.powerFiles, w.helpers⟩, w.calls)

end Pass

/-! ## Steps -/

inductive HelperStep (ε : Type) where
  | emulTemp (targetSensor : String) (temp : ExactFloat) (maxThrottling : Bool)
  | emulSeverity (targetSensor : String) (severity : ℤ) (maxThrottling : Bool)
  | emulClear (targetSensor : String)
  | read (world : ReadEnv ε) (name : String) (forceNoCache : Bool)
  | pass (world : PassWorld ε)

section Steps

variable {ε σ : Type}

def HelperConfig.step (config : HelperConfig) (reader : Reader ε σ) (state : ThermalHelperImpl σ) :
    HelperStep ε → Except Halt (ThermalHelperImpl σ)
  | .emulTemp targetSensor temp maxThrottling => do
    let (sensorStatusMap, _) ← Thermal.emulTemp config.sensorInfoMap config.fuel
      state.sensorStatusMap targetSensor temp maxThrottling
    pure { state with sensorStatusMap := sensorStatusMap }
  | .emulSeverity targetSensor severity maxThrottling => do
    let (sensorStatusMap, _) ← Thermal.emulSeverity config.sensorInfoMap config.fuel
      state.sensorStatusMap targetSensor severity maxThrottling
    pure { state with sensorStatusMap := sensorStatusMap }
  | .emulClear targetSensor => do
    let (sensorStatusMap, _) ← Thermal.emulClear config.sensorInfoMap config.fuel
      state.sensorStatusMap targetSensor
    pure { state with sensorStatusMap := sensorStatusMap }
  | .read world name forceNoCache => do
    let (final, _) ← config.readNow reader world state.throttling state.powerFiles
      state.sensorStatusMap state.helpers name forceNoCache
    pure { state with sensorStatusMap := final.sensorStatusMap, helpers := final.helpers }
  | .pass world => do
    let (state, _) ← config.runPass reader world state
    pure state

/-- A run of steps, up to the first one that does not return. -/
def HelperConfig.run (config : HelperConfig) (reader : Reader ε σ) (start : ThermalHelperImpl σ)
    (steps : List (HelperStep ε)) : Except Halt (ThermalHelperImpl σ) :=
  steps.foldlM (config.step reader) start

end Steps

/-! ## The pass and the watcher's pass -/

section Watcher

variable {ε σ : Type}

/-- What a reading comes to for the watcher, which looks at the temperature of a successful one only. -/
def watcherOutcome (sensorStatusMap : SensorStatusMap) :
    ReadOutcome Temperature → SensorReadStatus × Temperature × SensorStatusMap
  | .okay temp => (.okay, temp, sensorStatusMap)
  | .underCollecting => (.underCollecting, ⟨"", "", 0, .none⟩, sensorStatusMap)
  | .error => (.error, ⟨"", "", 0, .none⟩, sensorStatusMap)

/-- The reading of a sensor as the watcher's pass has it: with the models as they are. -/
def HelperConfig.passRead (config : HelperConfig) (reader : Reader ε σ) (reading : String → ReadEnv ε)
    (helpers : σ) (s : PassState) (name : String) (forceNoCache : Bool) :
    Checked (SensorReadStatus × Temperature × SensorStatusMap) :=
  match config.readNow reader (reading name) s.throttling s.powerFiles s.sensorStatusMap helpers name
    forceNoCache with
  | .error (.fault fault) => .error fault
  | .error .outOfFuel => .error .outOfRange
  | .ok (final, outcome) => .ok (watcherOutcome final.sensorStatusMap outcome)

theorem liftChecked_eq_ok {α : Type} {result : Checked α} {x : α} :
    liftChecked result = .ok x ↔ result = .ok x := by
  cases result with
  | ok y => exact ⟨fun h ↦ congrArg Except.ok (Except.ok.inj h), fun h ↦ congrArg liftChecked h⟩
  | error fault => exact iff_of_false (fun h ↦ nomatch h) (fun h ↦ nomatch h)

section Visits

variable {config : HelperConfig} {reader : Reader ε σ} {reading : String → ReadEnv ε} {env : PassEnv}
  {name : String} {info : SensorInfo} {w final : WatchState σ} {vote : Option ℤ}

/-- The reading of the pass, with what it does to the models left out. -/
theorem passRead_of_readInPass {forceNoCache : Bool} {outcome : ReadOutcome Temperature}
    (hread : config.readInPass reader reading w name forceNoCache = .ok (final, outcome)) :
    final.pass = { w.pass with sensorStatusMap := final.pass.sensorStatusMap } ∧
      config.passRead reader reading w.helpers w.pass name forceNoCache =
        .ok (watcherOutcome final.pass.sensorStatusMap outcome) := by
  obtain ⟨result, hresult⟩ := bind_eq_ok.mp hread
  have hdone := ok_pair hresult.2
  unfold HelperConfig.passRead
  rw [hresult.1, ← hdone.1, ← hdone.2]
  exact ⟨rfl, rfl⟩

theorem updateSensorBy_updateSensor {cause : UpdateCause} {maxThrottling : Bool} {sleepMs : ℤ}
    {helpers : σ} (hhelpers : w.helpers = helpers)
    (hupdate : updateSensorBy env (config.readInPass reader reading) name info cause maxThrottling
      sleepMs w = .ok (final, vote)) :
    updateSensor { env with readTemperature := config.passRead reader reading helpers } name info
      cause maxThrottling sleepMs w.pass = .ok (final.pass, vote) := by
  obtain ⟨result, hresult⟩ := bind_eq_ok.mp hupdate
  have hread := passRead_of_readInPass hresult.1
  rw [hhelpers] at hread
  have hpass : (⟨result.1.pass.sensorStatusMap, w.pass.throttling, w.pass.powerFiles,
      w.pass.powerDataIsUpdated, w.pass.temps, w.pass.coolingDevicesToUpdate, w.pass.minSleepMs⟩ :
        PassState) = result.1.pass := hread.1.symm
  apply bind_eq_ok.mpr
  refine ⟨_, hread.2, ?_⟩
  have hrest := hresult.2
  dsimp only at hrest
  cases houtcome : result.2 with
  | okay temp =>
    rw [houtcome] at hrest
    dsimp only [watcherOutcome]
    rw [hpass]
    obtain ⟨notified, hnotified⟩ := bind_eq_ok.mp hrest
    obtain ⟨throttled, hthrottled⟩ := bind_eq_ok.mp hnotified.2
    have hdone := ok_pair hthrottled.2
    rw [← hdone.1, ← hdone.2]
    exact bind_eq_ok.mpr ⟨notified, liftChecked_eq_ok.mp hnotified.1,
      bind_eq_ok.mpr ⟨throttled, liftChecked_eq_ok.mp hthrottled.1, rfl⟩⟩
  | underCollecting =>
    rw [houtcome] at hrest
    have hdone := ok_pair hrest
    rw [← hdone.1, ← hdone.2]
    dsimp only [watcherOutcome]
    rw [hpass]
    rfl
  | error =>
    rw [houtcome] at hrest
    have hdone := ok_pair hrest
    rw [← hdone.1, ← hdone.2]
    dsimp only [watcherOutcome]
    rw [hpass]
    rfl

/-- A visit with the models is a visit of the watcher, for the models as they are. -/
theorem visitSensorBy_visitSensor
    (hvisit : visitSensorBy env (config.readInPass reader reading) name w = .ok (final, vote)) :
    visitSensor { env with readTemperature := config.passRead reader reading w.helpers } name w.pass =
      .ok (final.pass, vote) := by
  obtain ⟨info, hinfo⟩ := bind_eq_ok.mp hvisit
  apply bind_eq_ok.mpr
  refine ⟨info, liftChecked_eq_ok.mp hinfo.1, ?_⟩
  have hrest := hinfo.2
  by_cases hwatch : info.isWatch = true
  · rw [if_pos hwatch] at hrest ⊢
    obtain ⟨status, hstatus⟩ := bind_eq_ok.mp hrest
    obtain ⟨sleepMs, hsleep⟩ := bind_eq_ok.mp hstatus.2
    apply bind_eq_ok.mpr
    refine ⟨status, liftChecked_eq_ok.mp hstatus.1, ?_⟩
    apply bind_eq_ok.mpr
    refine ⟨sleepMs, liftChecked_eq_ok.mp hsleep.1, ?_⟩
    have hdue := hsleep.2
    have hsame : updateCause { env with readTemperature := config.passRead reader reading w.helpers }
        name info status sleepMs = updateCause env name info status sleepMs := rfl
    dsimp only at hdue ⊢
    rw [hsame]
    by_cases hcause : ((updateCause env name info status sleepMs).forceUpdate ||
        status.overrideStatus.pendingUpdate) = true
    · rw [if_pos hcause] at hdue
      rw [if_pos hcause]
      exact updateSensorBy_updateSensor rfl hdue
    · rw [if_neg hcause] at hdue
      rw [if_neg hcause]
      have hdone := ok_pair hdue
      rw [← hdone.1, ← hdone.2]
      rfl
  · rw [if_neg hwatch] at hrest ⊢
    have hdone := ok_pair hrest
    rw [← hdone.1, ← hdone.2]
    rfl

end Visits

end Watcher

end HardwareMediatek.Thermal
