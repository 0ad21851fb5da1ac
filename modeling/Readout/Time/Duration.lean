/-! Spans of time in whole nanoseconds, and their written form. -/

namespace Readout

structure Duration where
  nanoseconds : Nat
  deriving DecidableEq

namespace Duration

def ofMicroseconds (n : Nat) : Duration := ⟨n * 1000⟩
def ofMilliseconds (n : Nat) : Duration := ⟨n * 1000000⟩
def ofSeconds (n : Nat) : Duration := ⟨n * 1000000000⟩

/-- One more than the largest number of whole seconds. -/
def secondsBound : Nat := 0x10000000000000000

/-- A span with more whole seconds than there can be. -/
structure Overflow where
  seconds : Nat
  deriving DecidableEq

def Overflow.message (_ : Overflow) : String := "overflow in Duration::new"

/-- Whole seconds among the nanoseconds are carried over to the seconds. -/
def ofParts (seconds nanoseconds : Nat) : Except Overflow Duration :=
  let whole := seconds + nanoseconds / 1000000000
  if secondsBound ≤ whole then .error ⟨whole⟩
  else .ok ⟨seconds * 1000000000 + nanoseconds⟩

/-- The digits of `n` as `places` decimals, without trailing zeros. -/
def decimals (places n : Nat) : List Char :=
  (((Nat.toDigits 10 n).leftpad places '0').reverse.dropWhile (· == '0')).reverse

/-- `n` with its last `places` digits behind the point; a whole number has no point. -/
def decimal (places n : Nat) : String :=
  let whole := toString (n / Nat.pow 10 places)
  match decimals places (n % Nat.pow 10 places) with
  | [] => whole
  | digits => whole ++ "." ++ String.ofList digits

/-- Written in the largest unit of which the span holds at least one. -/
def describe (d : Duration) : String :=
  if 1000000000 ≤ d.nanoseconds then decimal 9 d.nanoseconds ++ "s"
  else if 1000000 ≤ d.nanoseconds then decimal 6 d.nanoseconds ++ "ms"
  else if 1000 ≤ d.nanoseconds then decimal 3 d.nanoseconds ++ "µs"
  else decimal 0 d.nanoseconds ++ "ns"

end Duration

end Readout
