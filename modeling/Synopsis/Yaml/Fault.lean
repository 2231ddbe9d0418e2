import Synopsis.Decimal.Reading

namespace Synopsis.Yaml

/-- What is wrong with a point of time. -/
inductive TimeFault where
  | year
  | month
  | day
  | hour
  | minute
  | second
  | zone (minutes : Int)
  deriving DecidableEq

/-- A distance in time, in days and seconds, as messages show it. Only the days may be negative. -/
def distanceText (minutes : Int) : Text :=
  let part (name : Text) (n : Int) : List Text :=
    if n = 0 then [] else [name ++ "=" ++ toString n]
  "datetime.timedelta(" ++
    Text.intercalate ", "
      (part "days" (minutes / 1440) ++ part "seconds" (minutes % 1440 * 60)) ++ ")"

def TimeFault.message : TimeFault → Text
  | year => "year 0 is out of range"
  | month => "month must be in 1..12"
  | day => "day is out of range for month"
  | hour => "hour must be in 0..23"
  | minute => "minute must be in 0..59"
  | second => "second must be in 0..59"
  | zone minutes =>
    "offset must be a timedelta strictly between -timedelta(hours=24) and timedelta(hours=24), " ++
      "not " ++ distanceText minutes ++ "."

/-- `malformed` stands for all that is wrong with the text as a whole. -/
inductive Fault where
  | malformed
  | noCharacter
  | characterTooLarge
  | numberTooLarge
  | notTruth (word : Text)
  | notWhole (f : IntFault)
  | notReal (text : Text)
  | noNumber
  | noTime
  | timeNotText
  | time (f : TimeFault)
  deriving DecidableEq

def Fault.message : Fault → Text
  | malformed => "not a single document"
  | noCharacter => "chr() arg not in range(0x110000)"
  | characterTooLarge => "Python int too large to convert to C int"
  | numberTooLarge => "int too large to convert to float"
  | notTruth word => Text.quoted word
  | notWhole f => f.message
  | notReal text => "could not convert string to float: " ++ Text.quoted text
  | noNumber => "string index out of range"
  | noTime => "'NoneType' object has no attribute 'groupdict'"
  | timeNotText => "expected string or bytes-like object, got 'list'"
  | time f => f.message

end Synopsis.Yaml
