/-! Local times and the two forms in which they are written. -/

namespace VoiceMatch

/-- A reading of the clock. Years have at most four digits. -/
structure LocalTime where
  year : Fin 10000
  month : Nat
  day : Nat
  hour : Nat
  minute : Nat
  second : Nat
  micros : Nat
deriving DecidableEq

/-- Digits with zeros in front up to a width. -/
def paddedDigits (width n : Nat) : List Char :=
  let ds := Nat.toDigits 10 n
  List.replicate (width - ds.length) '0' ++ ds

namespace LocalTime

/-- The date and the time in digits, with an underscore between them. -/
def stamp (t : LocalTime) : List Char :=
  paddedDigits 4 t.year.val ++ paddedDigits 2 t.month ++ paddedDigits 2 t.day ++ '_'
    :: paddedDigits 2 t.hour ++ paddedDigits 2 t.minute ++ paddedDigits 2 t.second

def text (t : LocalTime) : String :=
  String.ofList (paddedDigits 4 t.year.val ++ '-' :: paddedDigits 2 t.month ++ '-'
    :: paddedDigits 2 t.day ++ 'T' :: paddedDigits 2 t.hour ++ ':' :: paddedDigits 2 t.minute
    ++ ':' :: paddedDigits 2 t.second ++ '.' :: paddedDigits 6 t.micros)

end LocalTime

end VoiceMatch
