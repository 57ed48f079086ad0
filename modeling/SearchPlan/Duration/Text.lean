import SearchPlan.Duration

/-! The compact text of a duration: below a second one unit (`750ns`, `1.5µs`, `50ms`), from a
second on hours, minutes and seconds (`2.25s`, `1m30s`, `2h0m5s`). Only the last number has a
fraction, and a fraction never ends in a zero. -/

namespace SearchPlan.Duration

/-- The digits after the point of `part / 10 ^ width`, for `part < 10 ^ width`. -/
def fraction (part width : Nat) : List Char :=
  let digits := (Nat.toDigits 10 part).leftpad width '0'
  (digits.reverse.dropWhile (· == '0')).reverse

/-- The number `value / 10 ^ width` without superfluous zeros. -/
def decimal (value width : Nat) : List Char :=
  let unit := Nat.pow 10 width
  let whole := Nat.toDigits 10 (value / unit)
  match fraction (value % unit) width with
  | [] => whole
  | digits => whole ++ '.' :: digits

/-- Hours and minutes are left out while they and all larger units are zero. -/
def clockChars (d : Duration) : List Char :=
  let hours := d.secs / 3600
  let minutes := d.secs % 3600 / 60
  let seconds := decimal (d.secs % 60 * 1000000000 + d.subsec) 9 ++ ['s']
  if hours = 0 then
    if minutes = 0 then seconds else Nat.toDigits 10 minutes ++ 'm' :: seconds
  else
    Nat.toDigits 10 hours ++ 'h' :: (Nat.toDigits 10 minutes ++ 'm' :: seconds)

def chars (d : Duration) : List Char :=
  if d.nanos = 0 then ['0', 's']
  else if d.nanos < 1000 then Nat.toDigits 10 d.nanos ++ ['n', 's']
  else if d.nanos < 1000000 then decimal d.nanos 3 ++ ['µ', 's']
  else if d.nanos < 1000000000 then decimal d.nanos 6 ++ ['m', 's']
  else d.clockChars

def text (d : Duration) : String := String.ofList d.chars

end SearchPlan.Duration
