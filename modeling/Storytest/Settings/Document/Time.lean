import Storytest.Text.Reader

/-!
# Dates and times in settings documents

Dates, times of day, and both together with an optional offset. No setting is a date, so only
whether the text is one matters.
-/

namespace Storytest.Settings.Document

/-- Takes digits of a fixed number and gives their value. -/
def fixedDigits (count : Nat) : Reader Char Nat := fun input =>
  let digits := input.take count
  if digits.length = count && digits.all Char.isDigit then
    some (digits.foldl (fun value c => 10 * value + (c.toNat - 48)) 0, input.drop count)
  else none

/-- Takes digits of a fixed number whose value lies within bounds. -/
def bounded (count low high : Nat) : Reader Char Nat := do
  let value ← fixedDigits count
  if low ≤ value && value ≤ high then return value else failure

/-- The number of days in a month. -/
def daysIn (year month : Nat) : Nat :=
  if month = 2 then
    if (year % 4 = 0 && year % 100 ≠ 0) || year % 400 = 0 then 29 else 28
  else if month = 4 || month = 6 || month = 9 || month = 11 then 30
  else 31

/-- Takes a date. -/
def date : Reader Char Unit := do
  let year ← fixedDigits 4
  Reader.one '-'
  let month ← bounded 2 1 12
  Reader.one '-'
  let _ ← bounded 2 1 (daysIn year month)

/-- Takes a time of day. -/
def time : Reader Char Unit := do
  let _ ← bounded 2 0 23
  Reader.one ':'
  let _ ← bounded 2 0 59
  Reader.one ':'
  let _ ← bounded 2 0 60
  if ← Reader.optional '.' then
    let _ ← Reader.takeWhile1 Char.isDigit

/-- Takes an offset from universal time. -/
def offset : Reader Char Unit := do
  let c ← Reader.next
  if c = 'Z' || c = 'z' then pure ()
  else if c = '+' || c = '-' then
    let _ ← bounded 2 0 23
    Reader.one ':'
    let _ ← bounded 2 0 59
  else failure

/-- Takes a time of day after a date, with its offset. -/
def timeAfterDate : Reader Char Unit := do
  let c ← Reader.next
  if c = 'T' || c = 't' || c = ' ' then
    time
    offset <|> pure ()
  else failure

/-- Takes a date, a time of day, or both. -/
def dateTime : Reader Char Unit :=
  (do date; timeAfterDate <|> pure ()) <|> time

end Storytest.Settings.Document
