import ModuleBus.Bytes
import ModuleBus.Calendar

set_option autoImplicit false

/-! # Time and place

What the satellite receiver reports: a time in eight bytes and a place in nine. Integers are
little-endian; the place is counted in millionths of a degree. -/

namespace ModuleBus

/-- Fewest satellites of a usable fix. -/
def minSatellites : UInt8 := 3

/-- A reported time. -/
structure TimeInfo where
  year : UInt16
  month : UInt8
  day : UInt8
  hours : UInt8
  minutes : UInt8
  seconds : UInt8
  satellites : UInt8
deriving DecidableEq, Inhabited

namespace TimeInfo

/-- What is reported before there is a fix. -/
def none : TimeInfo := ⟨0, 0, 0, 0, 0, 0, 0⟩

/-- The reported form of a time; the year is kept within its sixteen bits. -/
def ofDateTime (t : DateTime) (satellites : UInt8) : TimeInfo where
  year := UInt16.ofNat (min t.year.toNat 65535)
  month := UInt8.ofNat t.month
  day := UInt8.ofNat t.dayOfMonth
  hours := UInt8.ofNat t.hour
  minutes := UInt8.ofNat t.minute
  seconds := UInt8.ofNat t.secondOfMinute
  satellites := satellites

/-- The time that is reported, when its fields name one. -/
def toDateTime? (t : TimeInfo) : Option DateTime :=
  DateTime.ofFields? t.year.toNat t.month.toNat t.day.toNat t.hours.toNat t.minutes.toNat
    t.seconds.toNat

/-- The eight bytes of a time. -/
def toBytes (t : TimeInfo) : Bytes :=
  Bytes.ofNatLE 2 t.year.toNat ++ [t.month, t.day, t.hours, t.minutes, t.seconds, t.satellites]

/-- The time at the start of some bytes. -/
def parse? : Bytes → Option TimeInfo
  | y₀ :: y₁ :: month :: day :: hours :: minutes :: seconds :: satellites :: _ =>
    some ⟨UInt16.ofNat (Bytes.toNatLE [y₀, y₁]), month, day, hours, minutes, seconds, satellites⟩
  | _ => Option.none

end TimeInfo

/-- A reported place, in millionths of a degree. -/
structure LocationInfo where
  latitude : Int32
  longitude : Int32
  satellites : UInt8
deriving DecidableEq, Inhabited

namespace LocationInfo

/-- What is reported before there is a fix. -/
def none : LocationInfo := ⟨0, 0, 0⟩

/-- The nine bytes of a place. -/
def toBytes (l : LocationInfo) : Bytes :=
  Bytes.ofIntLE 4 l.latitude.toInt ++ Bytes.ofIntLE 4 l.longitude.toInt ++ [l.satellites]

/-- The place at the start of some bytes. -/
def parse? (bytes : Bytes) : Option LocationInfo :=
  match bytes.intLE? 0 4, bytes.intLE? 4 4, bytes.drop 8 with
  | some latitude, some longitude, satellites :: _ =>
    some ⟨Int32.ofInt latitude, Int32.ofInt longitude, satellites⟩
  | _, _, _ => Option.none

/-- A coordinate in degrees. -/
def degrees (millionths : Int32) : Float := Float.ofInt millionths.toInt / 1000000.0

/-- The nearest millionth of a degree, a half going away from zero; degrees out of range go to the
end of the range. -/
def millionths (degrees : Float) : Int32 := (degrees * 1000000.0).round.toInt32

end LocationInfo

/-- One fix of the satellite receiver. -/
structure Fix where
  time : TimeInfo
  location : LocationInfo
deriving DecidableEq, Inhabited

/-- What is reported before there is a fix. -/
def Fix.none : Fix := ⟨TimeInfo.none, LocationInfo.none⟩

end ModuleBus
