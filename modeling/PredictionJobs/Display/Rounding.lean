import PredictionJobs.Binary64.Layout

/-! # Rounding for display

Numbers are shown in hundredths. A half goes up, towards positive infinity, and a zero is shown
without a sign.
-/

namespace PredictionJobs.Display

def half : Binary64 := Binary64.nearest false 1 2

def hundred : Binary64 := Binary64.ofNat 100

/-- The number rounded to hundredths. Adding zero at the end makes a negative zero positive. -/
def roundToHundredths (x : Binary64) : Binary64 :=
  (x * hundred + half).floor / hundred + Binary64.zero false

def hundredthsText (x : Binary64) : String := Binary64.plain.text (roundToHundredths x)

end PredictionJobs.Display
