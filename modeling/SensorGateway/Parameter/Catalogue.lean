import SensorGateway.Parameter.Value

/-!
# The catalogue of parameters

A parameter is named on the wire by a fourteen-bit type code: a feature group in the three high
bits and a code within the group in the eleven low ones. The catalogue gives each known code its
name, its unit and the shape of its data. Type codes and names are both unique, so that either one
identifies a parameter.
-/

namespace SensorGateway

structure ParameterKey where
  feature : UInt8
  code : UInt16
deriving DecidableEq

namespace ParameterKey

/-- The parts of a type code, bits above the fourteenth ignored. -/
def ofTypeCode (typeCode : UInt16) : ParameterKey :=
  ⟨(typeCode / 2048 % 8).toUInt8, typeCode % 2048⟩

/-- The type code of a key, parts too large for their bits reduced to them. -/
def typeCode (key : ParameterKey) : UInt16 :=
  key.feature.toUInt16 % 8 * 2048 + key.code % 2048

end ParameterKey

structure Parameter where
  feature : UInt8
  code : UInt16
  name : String
  unit : String
  kind : ValueKind
deriving DecidableEq

namespace Parameter

def key (parameter : Parameter) : ParameterKey :=
  ⟨parameter.feature, parameter.code⟩

def typeCode (parameter : Parameter) : UInt16 :=
  parameter.key.typeCode

def decode (parameter : Parameter) (data : Bytes) : Except Failure Value :=
  parameter.kind.decode parameter.name data

end Parameter

namespace Catalogue

/-- The state of any device: feature group 0. -/
def generalParameters : List Parameter :=
  [⟨0, 0x001, "Length", "m", .f32⟩,
   ⟨0, 0x002, "Mass", "kg", .f32⟩,
   ⟨0, 0x003, "Time", "s", .u32⟩,
   ⟨0, 0x004, "ElectricCurrent", "A", .f32⟩,
   ⟨0, 0x005, "Temperature", "℃", .f32⟩,
   ⟨0, 0x006, "AmountOfSubstance", "mol", .f32⟩,
   ⟨0, 0x007, "LuminousIntensity", "cd", .f32⟩,
   ⟨0, 0x01C, "HeartbeatStatus", "", .u8⟩,
   ⟨0, 0x01D, "BatteryRemaining", "%", .u16⟩,
   ⟨0, 0x01E, "BatteryVoltage", "V", .f32⟩,
   ⟨0, 0x01F, "SensorSelfTestStatus", "", .u8⟩,
   ⟨0, 0x020, "NetworkConnectionStatus", "", .u8⟩,
   ⟨0, 0x021, "PowerStatus", "", .u8⟩,
   ⟨0, 0x022, "DataCollectionInterval", "s", .u16⟩,
   ⟨0, 0x023, "SignalStrength", "", .f32⟩,
   ⟨0, 0x038, "PrimaryCurrent", "kA", .f32⟩,
   ⟨0, 0x039, "SecondaryCurrent", "mA", .f32⟩,
   ⟨0, 0x03A, "PrimaryVoltage", "kV", .f32⟩,
   ⟨0, 0x03B, "SecondaryVoltage", "mV", .f32⟩,
   ⟨0, 0x03C, "Waveform", "", .f32Array⟩,
   ⟨0, 0x03D, "PhaseAngle", "°", .f32⟩,
   ⟨0, 0x03E, "Phase", "", .u16⟩,
   ⟨0, 0x03F, "Frequency", "Hz", .f32⟩,
   ⟨0, 0x080, "ActivePower", "W", .f32⟩,
   ⟨0, 0x081, "ReactivePower", "W", .f32⟩,
   ⟨0, 0x082, "ElectricEnergy", "kWh", .f32⟩,
   ⟨0, 0x083, "PowerFactor", "", .f32⟩,
   ⟨0, 0x084, "VoltagePresenceIndicator", "", .u16⟩,
   ⟨0, 0x085, "ElectricCharge", "C", .f32⟩,
   ⟨0, 0x05A, "Longitude", "", .f32⟩,
   ⟨0, 0x05B, "Latitude", "", .f32⟩,
   ⟨0, 0x05C, "Altitude", "", .f32⟩,
   ⟨0, 0x05D, "Displacement", "", .f32⟩,
   ⟨0, 0x05E, "DisplacementTrajectory", "mm", .f32Array⟩,
   ⟨0, 0x05F, "Velocity", "m/s", .f32⟩,
   ⟨0, 0x060, "Acceleration", "m/s²", .f32⟩,
   ⟨0, 0x061, "Angle", "rad", .f32⟩,
   ⟨0, 0x062, "AngularVelocity", "rad/s", .f32⟩,
   ⟨0, 0x063, "AngularAcceleration", "rad/s²", .f32⟩,
   ⟨0, 0x064, "Strain", "%", .f32⟩,
   ⟨0, 0x065, "StressOrPressure", "Pa", .f32⟩,
   ⟨0, 0x066, "VibrationSpectrum", "m/s²", .f32Array⟩,
   ⟨0, 0x067, "Force", "N", .f32⟩]

/-- Transmission lines: feature group 1. -/
def lineParameters : List Parameter :=
  [⟨1, 0x001, "10minAvgWindSpeed", "m/s", .f32⟩,
   ⟨1, 0x002, "10minAvgWindDirection", "°", .i16⟩,
   ⟨1, 0x003, "MaxWindSpeed", "m/s", .f32⟩,
   ⟨1, 0x024, "ExtremeWindSpeed", "m/s", .f32⟩,
   ⟨1, 0x015, "StandardWindSpeed", "m/s", .f32⟩,
   ⟨1, 0x006, "Temperature1", "°C", .f32⟩,
   ⟨1, 0x007, "Humidity1", "%RH", .u16⟩,
   ⟨1, 0x008, "Pressure", "hPa", .f32⟩,
   ⟨1, 0x009, "Rainfall10min", "mm", .f32⟩,
   ⟨1, 0x00A, "RainIntensity", "mm/min", .f32⟩,
   ⟨1, 0x00B, "SolarRadiation", "W/m2", .u16⟩,
   ⟨1, 0x00C, "InstantWindSpeed", "m/s", .f32⟩,
   ⟨1, 0x00D, "InstantWindDirection", "°", .i16⟩,
   ⟨1, 0x00E, "WindDirectionDeviation", "°", .i16⟩]

/-- Substations: feature group 2. -/
def substationParameters : List Parameter :=
  [⟨2, 0x001, "ArresterLeakageTotalCurrent", "mA", .f32⟩,
   ⟨2, 0x002, "ArresterLeakageResistiveCurrent", "mA", .f32⟩,
   ⟨2, 0x003, "LeakageCurrentSamplingPhase", "°", .f32⟩,
   ⟨2, 0x004, "ArresterOperationCount", "times", .u16⟩,
   ⟨2, 0x005, "ArresterResistiveLeakageCurrentPeak", "mA", .f32⟩,
   ⟨2, 0x006, "BusVoltageSamplingPhase", "°", .f32⟩,
   ⟨2, 0x01B, "TransformerCoreClipGroundingCurrent", "A", .f32⟩,
   ⟨2, 0x01C, "TransformerCoreClipGroundingCurrentSpectrum", "A", .u16Array⟩,
   ⟨2, 0x01D, "DielectricLossFactor", "°", .f32⟩,
   ⟨2, 0x01E, "Capacitance", "pF", .f32⟩,
   ⟨2, 0x01F, "TotalCurrent", "mA", .f32⟩,
   ⟨2, 0x020, "InitialPhaseAngle", "°", .f32⟩,
   ⟨2, 0x021, "ReferenceCurrent", "mA", .f32⟩,
   ⟨2, 0x022, "ReferencePhaseAngle", "°", .f32⟩,
   ⟨2, 0x037, "ClosingDisplacement", "mm", .f32⟩,
   ⟨2, 0x038, "ClosingAngularDisplacement", "°", .f32⟩,
   ⟨2, 0x039, "ClosingSpeed", "m/s", .f32⟩,
   ⟨2, 0x03A, "ClosingTime", "s", .f32⟩,
   ⟨2, 0x03B, "ClosingCoilCurrentPeak", "A", .f32⟩,
   ⟨2, 0x03C, "ClosingCoilCurrentOnTime", "ms", .f32⟩,
   ⟨2, 0x03D, "OpeningDisplacement", "mm", .f32⟩,
   ⟨2, 0x03E, "OpeningAngularDisplacement", "°", .f32⟩,
   ⟨2, 0x03F, "OpeningSpeed", "m/s", .f32⟩,
   ⟨2, 0x040, "OpeningTime", "s", .f32⟩,
   ⟨2, 0x041, "OpeningCoilCurrentPeak", "A", .f32⟩,
   ⟨2, 0x042, "OpeningCoilCurrentOnTime", "ms", .f32⟩,
   ⟨2, 0x043, "EnergyStorageMotorOperatingCurrentMax", "A", .f32⟩,
   ⟨2, 0x044, "EnergyStorageMotorStartingCurrentMax", "A", .f32⟩,
   ⟨2, 0x045, "EnergyStorageMotorCurrentDuration", "ms", .f32⟩,
   ⟨2, 0x046, "MechanismOperationCount", "", .u8⟩,
   ⟨2, 0x047, "SwitchContactPosition", "", .u8⟩,
   ⟨2, 0x048, "DriveMechanismDisplacementTimeWaveform", "", .f32Array⟩,
   ⟨2, 0x049, "ClosingCoilCurrentTimeWaveform", "", .f32Array⟩,
   ⟨2, 0x04A, "OpeningCoilCurrentTimeWaveform", "", .f32Array⟩,
   ⟨2, 0x04B, "EnergyStorageMotorCurrentTimeWaveform", "", .f32Array⟩,
   ⟨2, 0x04C, "SwitchContactPressure", "N", .f32⟩,
   ⟨2, 0x04D, "LoadTapChangerPosition", "", .u16⟩,
   ⟨2, 0x062, "HighFrequencyMultiSpectrum", "", .f32Array⟩,
   ⟨2, 0x063, "HighFrequencyPRPDSpectrum", "", .f32Array⟩,
   ⟨2, 0x064, "HighFrequencyPRPSSpectrum", "", .f32Array⟩,
   ⟨2, 0x065, "HighFrequencyTFSpectrum", "", .f32Array⟩,
   ⟨2, 0x066, "UltraHighFrequencyMultiSpectrum", "", .f32Array⟩,
   ⟨2, 0x067, "UltraHighFrequencyPRPDSpectrum", "", .f32Array⟩,
   ⟨2, 0x068, "UltraHighFrequencyPRPSSpectrum", "", .f32Array⟩,
   ⟨2, 0x069, "UltrasonicMultiSpectrum", "", .f32Array⟩,
   ⟨2, 0x06A, "UltrasonicFeatureSpectrum", "", .f32Array⟩,
   ⟨2, 0x06B, "UltrasonicPhaseSpectrum", "", .f32Array⟩,
   ⟨2, 0x06C, "UltrasonicPulseSpectrum", "", .f32Array⟩,
   ⟨2, 0x06D, "UltrasonicWaveform", "", .f32Array⟩,
   ⟨2, 0x06E, "TransientVoltageMultiSpectrum", "", .f32Array⟩,
   ⟨2, 0x06F, "TransientVoltageAmplitude", "", .f32Array⟩,
   ⟨2, 0x070, "TransientVoltagePRPDSpectrum", "", .f32Array⟩,
   ⟨2, 0x071, "TransientVoltagePRPSSpectrum", "", .f32Array⟩,
   ⟨2, 0x072, "OscillationIncidentWave", "", .f32Array⟩,
   ⟨2, 0x073, "OscillationReflectedWave", "", .f32Array⟩,
   ⟨2, 0x088, "Methane", "μL/L", .f32⟩,
   ⟨2, 0x089, "Ethane", "μL/L", .f32⟩,
   ⟨2, 0x08A, "Ethylene", "μL/L", .f32⟩,
   ⟨2, 0x08B, "Acetylene", "μL/L", .f32⟩,
   ⟨2, 0x08C, "CarbonMonoxide", "μL/L", .f32⟩,
   ⟨2, 0x08D, "CarbonDioxide", "μL/L", .f32⟩,
   ⟨2, 0x08E, "Hydrogen", "μL/L", .f32⟩,
   ⟨2, 0x08F, "WaterContent", "μL/L", .f32⟩,
   ⟨2, 0x090, "Nitrogen", "μL/L", .f32⟩,
   ⟨2, 0x091, "Oxygen", "μL/L", .f32⟩,
   ⟨2, 0x092, "TotalHydrocarbon", "μL/L", .f32⟩,
   ⟨2, 0x093, "OilTemperature", "℃", .f32⟩,
   ⟨2, 0x094, "OilPressure", "Pa", .f32⟩,
   ⟨2, 0x095, "TotalCombustibleGas", "μL/L", .f32⟩,
   ⟨2, 0x096, "CarrierGasPressure", "MPa", .f32⟩,
   ⟨2, 0x0AB, "SF6DewPoint", "°C", .f32⟩,
   ⟨2, 0x0AC, "SF6Moisture", "μL/L", .f32⟩,
   ⟨2, 0x0AD, "SF6Purity", "%", .f32⟩,
   ⟨2, 0x0AE, "H2S", "μL/L", .f32⟩,
   ⟨2, 0x0AF, "SO2", "μL/L", .f32⟩,
   ⟨2, 0x0B0, "HF", "μL/L", .f32⟩,
   ⟨2, 0x0B1, "SOF2", "μL/L", .f32⟩,
   ⟨2, 0x0B2, "CF4", "μL/L", .f32⟩,
   ⟨2, 0x0B3, "SO2F2", "μL/L", .f32⟩,
   ⟨2, 0x0B4, "CO", "μL/L", .f32⟩,
   ⟨2, 0x0B5, "CO2", "μL/L", .f32⟩,
   ⟨2, 0x0B6, "SF6GaugePressure", "Pa", .f32⟩,
   ⟨2, 0x0B7, "SF6AbsolutePressure", "Pa", .f32⟩,
   ⟨2, 0x0B8, "SF6O2N2", "μL/L", .f32⟩,
   ⟨2, 0x0B9, "SF6ActualPressure", "Pa", .f32⟩,
   ⟨2, 0x0BA, "SF6Temperature", "°C", .f32⟩,
   ⟨2, 0x0CF, "AmbientNitrogen", "μL/L", .f32⟩,
   ⟨2, 0x0D0, "Ammonia", "μL/L", .f32⟩,
   ⟨2, 0x0D1, "CombustibleGasConcentration", "μL/L", .f32⟩,
   ⟨2, 0x0D2, "ToxicGasConcentration", "μL/L", .f32⟩,
   ⟨2, 0x0D3, "SF6GasConcentration", "μL/L", .f32⟩,
   ⟨2, 0x0D4, "OtherGasConcentration", "μL/L", .f32⟩]

/-- Auxiliary facilities: feature group 3. -/
def facilityParameters : List Parameter :=
  [⟨3, 0x001, "ArcFlashIntensity", "mW/cm2", .f32⟩,
   ⟨3, 0x002, "Noise", "dB", .f32⟩,
   ⟨3, 0x003, "WaterIngressStatus", "", .u16⟩,
   ⟨3, 0x004, "WaterLevel", "m", .f32⟩,
   ⟨3, 0x005, "Settlement", "mm", .f32⟩,
   ⟨3, 0x006, "EquipmentRunningStatus", "", .u8⟩,
   ⟨3, 0x007, "DoorWindowLockStatus", "", .u8⟩,
   ⟨3, 0x008, "PerimeterAlarmStatus", "", .u8⟩,
   ⟨3, 0x009, "ManholeCoverStatus", "", .u8⟩,
   ⟨3, 0x00A, "SmokeDetectorStatus", "", .u8⟩,
   ⟨3, 0x00B, "SwitchControl", "", .u8⟩,
   ⟨3, 0x00C, "SwitchStatus", "", .u8⟩,
   ⟨3, 0x00D, "ACSetTemperature", "℃", .f32⟩,
   ⟨3, 0x00E, "ACCurrentTemperature", "℃", .f32⟩,
   ⟨3, 0x023, "StringVoltage", "V", .f32⟩,
   ⟨3, 0x024, "StringCurrent", "A", .f32⟩,
   ⟨3, 0x025, "BatteryGroupStatus", "", .u8⟩,
   ⟨3, 0x026, "BalanceDegree", "%", .u16⟩,
   ⟨3, 0x027, "CellVoltage", "mV", .f32⟩,
   ⟨3, 0x028, "CellInternalResistance", "mΩ", .f32⟩,
   ⟨3, 0x029, "CellSOC", "%", .u16⟩,
   ⟨3, 0x02A, "CellSOH", "%", .u16⟩,
   ⟨3, 0x02B, "CellTemperature", "℃", .f32⟩]

def parameters : List Parameter :=
  generalParameters ++ lineParameters ++ substationParameters ++ facilityParameters

/-- The parameter with this type code, bits above the fourteenth ignored. -/
def lookup? (typeCode : UInt16) : Option Parameter :=
  parameters.find? fun parameter => parameter.key == ParameterKey.ofTypeCode typeCode

def named? (name : String) : Option Parameter :=
  parameters.find? fun parameter => parameter.name == name

def sorted : List Parameter :=
  parameters.mergeSort fun left right => left.typeCode ≤ right.typeCode

end Catalogue

end SensorGateway
