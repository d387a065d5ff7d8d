/-!
The bound on the length of whole numbers in text.
-/

namespace ChatHost.Decimal

/-- The greatest number of digits of a whole number that is read from text or written to it. -/
def digitLimit : Nat :=
  4300

def tooManyDigits (count : Nat) : String :=
  s!"Exceeds the limit ({digitLimit} digits) for integer string conversion: value has {count} " ++
    "digits; use sys.set_int_max_str_digits() to increase the limit"

/-- The wording for a whole number that has too many digits to be written. -/
def tooLong : String :=
  s!"Exceeds the limit ({digitLimit} digits) for integer string conversion; " ++
    "use sys.set_int_max_str_digits() to increase the limit"

end ChatHost.Decimal
