import CommunityServers.Foundation.BitFields
import CommunityServers.Nex.Types

/-!
Contract: dates as bit fields of 64 bits.

Owns:
- the fields of a `DateTime`, what they are made of, and the moment they stand
  for, also when a field is out of its calendar range;
- calendar timestamps, and that a timestamp made into a `DateTime` stands for
  the same second.

A moment is a number of seconds since the start of the year 0, as negative as it
has to be. Does not own: fractions of a second, SQL and text forms.
-/

set_option autoImplicit false

namespace CommunityServers.Nex

open CommunityServers.Foundation

/-! ### The calendar -/

def isLeap (year : Int) : Bool := year % 4 = 0 && (year % 100 ≠ 0 || year % 400 = 0)

/-- The days before a year. -/
def daysBeforeYear (year : Int) : Int :=
  365 * year + (year + 3) / 4 - (year + 99) / 100 + (year + 399) / 400

/-- The days before a month, counted from 0, in a year that is not a leap year. -/
def daysBefore : List Int := [0, 31, 59, 90, 120, 151, 181, 212, 243, 273, 304, 334]

/-- The moment `time.Date` makes of fields in any range. -/
def date (year month day hour min sec : Int) : Int :=
  let year' := year + (month - 1) / 12
  let month' := (month - 1) % 12
  let days := daysBeforeYear year' + daysBefore.getD month'.toNat 0 +
    (if isLeap year' ∧ 2 ≤ month' then 1 else 0) + (day - 1)
  ((days * 24 + hour) * 60 + min) * 60 + sec

/-! ### Bit fields -/

namespace DateTime

def make (year month day hour minute second : Nat) : DateTime :=
  ⟨UInt64.ofNat (second ||| minute <<< 6 ||| hour <<< 12 ||| day <<< 17 ||| month <<< 22 |||
    year <<< 26)⟩

def second (dt : DateTime) : Nat := (dt.value &&& 63).toNat

def minute (dt : DateTime) : Nat := (dt.value >>> 6 &&& 63).toNat

def hour (dt : DateTime) : Nat := (dt.value >>> 12 &&& 31).toNat

def day (dt : DateTime) : Nat := (dt.value >>> 17 &&& 31).toNat

def month (dt : DateTime) : Nat := (dt.value >>> 22 &&& 15).toNat

def year (dt : DateTime) : Nat := (dt.value >>> 26).toNat

def standard (dt : DateTime) : Int := date dt.year dt.month dt.day dt.hour dt.minute dt.second

end DateTime

/-- The calendar fields of a moment, from the year 0 to the last year a
`DateTime` has room for. -/
structure Timestamp where
  year : Nat
  month : Nat
  day : Nat
  hour : Nat
  minute : Nat
  second : Nat
  year_lt : year < 2 ^ 38
  month_lt : month < 13
  day_lt : day < 32
  hour_lt : hour < 24
  minute_lt : minute < 60
  second_lt : second < 60

def Timestamp.moment (timestamp : Timestamp) : Int :=
  date timestamp.year timestamp.month timestamp.day timestamp.hour timestamp.minute
    timestamp.second

namespace DateTime

def fromTimestamp (timestamp : Timestamp) : DateTime :=
  make timestamp.year timestamp.month timestamp.day timestamp.hour timestamp.minute
    timestamp.second

/-- A field cut out of a word. -/
theorem toNat_field (value shift mask : UInt64) {width : Nat}
    (isMask : mask.toNat = 2 ^ width - 1) :
    (value >>> shift &&& mask).toNat = value.toNat / 2 ^ (shift.toNat % 64) % 2 ^ width := by
  rw [UInt64.toNat_and, UInt64.toNat_shiftRight, isMask, Nat.and_two_pow_sub_one_eq_mod,
    Nat.shiftRight_eq_div_pow]

/-- The fields of a made `DateTime` as one number. -/
theorem toNat_fromTimestamp (timestamp : Timestamp) :
    (fromTimestamp timestamp).value.toNat =
      timestamp.year * 2 ^ 26 + (timestamp.month * 2 ^ 22 + (timestamp.day * 2 ^ 17 +
        (timestamp.hour * 2 ^ 12 + (timestamp.minute * 2 ^ 6 + timestamp.second)))) := by
  have yearFits := timestamp.year_lt
  have monthFits := timestamp.month_lt
  have dayFits := timestamp.day_lt
  have hourFits := timestamp.hour_lt
  have minuteFits := timestamp.minute_lt
  have secondFits := timestamp.second_lt
  unfold fromTimestamp make
  rw [or_shiftLeft_eq_add (by omega) timestamp.minute,
    or_shiftLeft_eq_add (by omega) timestamp.hour, or_shiftLeft_eq_add (by omega) timestamp.day,
    or_shiftLeft_eq_add (by omega) timestamp.month, or_shiftLeft_eq_add (by omega) timestamp.year]
  apply UInt64.toNat_ofNat_of_lt'
  show _ < 2 ^ 64
  omega

/-- The fields of a made `DateTime` are those it was made of. -/
theorem fields_fromTimestamp (timestamp : Timestamp) :
    (fromTimestamp timestamp).second = timestamp.second ∧
      (fromTimestamp timestamp).minute = timestamp.minute ∧
      (fromTimestamp timestamp).hour = timestamp.hour ∧
      (fromTimestamp timestamp).day = timestamp.day ∧
      (fromTimestamp timestamp).month = timestamp.month ∧
      (fromTimestamp timestamp).year = timestamp.year := by
  have value := toNat_fromTimestamp timestamp
  have monthFits := timestamp.month_lt
  have dayFits := timestamp.day_lt
  have hourFits := timestamp.hour_lt
  have minuteFits := timestamp.minute_lt
  have secondFits := timestamp.second_lt
  refine ⟨?_, ?_, ?_, ?_, ?_, ?_⟩
  · unfold second
    rw [UInt64.toNat_and, show (63 : UInt64).toNat = 2 ^ 6 - 1 from rfl,
      Nat.and_two_pow_sub_one_eq_mod, value]
    omega
  · refine (toNat_field _ 6 63 (show _ = 2 ^ 6 - 1 from rfl)).trans ?_
    rw [value, show (6 : UInt64).toNat % 64 = 6 from rfl]
    omega
  · refine (toNat_field _ 12 31 (show _ = 2 ^ 5 - 1 from rfl)).trans ?_
    rw [value, show (12 : UInt64).toNat % 64 = 12 from rfl]
    omega
  · refine (toNat_field _ 17 31 (show _ = 2 ^ 5 - 1 from rfl)).trans ?_
    rw [value, show (17 : UInt64).toNat % 64 = 17 from rfl]
    omega
  · refine (toNat_field _ 22 15 (show _ = 2 ^ 4 - 1 from rfl)).trans ?_
    rw [value, show (22 : UInt64).toNat % 64 = 22 from rfl]
    omega
  · unfold year
    rw [UInt64.toNat_shiftRight, Nat.shiftRight_eq_div_pow, value,
      show (26 : UInt64).toNat % 64 = 26 from rfl]
    omega

/-- A timestamp made into a `DateTime` stands for the same moment. -/
theorem standard_fromTimestamp (timestamp : Timestamp) :
    (fromTimestamp timestamp).standard = timestamp.moment := by
  obtain ⟨second, minute, hour, day, month, year⟩ := fields_fromTimestamp timestamp
  rw [standard, second, minute, hour, day, month, year]
  rfl

end DateTime

end CommunityServers.Nex
