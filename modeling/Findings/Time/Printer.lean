import Findings.Time.Timestamp

/-!
# Writing timestamps

Date and time are written in full, the fraction with the fewest of no, three, six or nine
digits that are exact. A year outside of four plain digits has a sign.
-/
namespace Findings.Time

/-- A number with zeros in front up to the given width. -/
def padded (width n : Nat) : List Char :=
  let digits := Nat.toDigits 10 n
  List.replicate (width - digits.length) '0' ++ digits

/-- A year of four digits, signed if it has more or is before year 0. -/
def yearText (year : Int) : List Char :=
  if 0 ≤ year && year ≤ 9999 then padded 4 year.toNat
  else (if year < 0 then '-' else '+') :: padded 4 year.natAbs

/-- The fraction of a second behind its point. -/
def fractionText (nanos : Nat) : List Char :=
  if nanos = 0 then []
  else if nanos % 1000000 = 0 then '.' :: padded 3 (nanos / 1000000)
  else if nanos % 1000 = 0 then '.' :: padded 6 (nanos / 1000)
  else '.' :: padded 9 nanos

def dateText (d : Date) : List Char :=
  yearText d.year ++ '-' :: padded 2 d.month ++ '-' :: padded 2 d.day

def clockText (r : ClockReading) : List Char :=
  padded 2 r.hour ++ ':' :: padded 2 r.minute ++ ':' :: padded 2 r.second ++ fractionText r.nanos

namespace Timestamp

/-- The form in documents: `2024-05-06T07:08:09.250Z`. -/
def text (t : Timestamp) : String :=
  String.ofList (dateText t.reading.date ++ 'T' :: clockText t.reading ++ ['Z'])

/-- The form with a zone in digits: `2024-05-06T07:08:09.250+00:00`. -/
def zonedText (t : Timestamp) : String :=
  String.ofList
    (dateText t.reading.date ++ 'T' :: clockText t.reading ++ ['+', '0', '0', ':', '0', '0'])

/-- The form in table columns: `2024-05-06 07:08:09.250+00:00`. -/
def columnText (t : Timestamp) : String :=
  String.ofList
    (dateText t.reading.date ++ ' ' :: clockText t.reading ++ ['+', '0', '0', ':', '0', '0'])

end Timestamp

end Findings.Time
