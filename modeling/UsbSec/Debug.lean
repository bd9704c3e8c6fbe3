import UsbSec.Library.Program

/-!
# Ways in which a core stops

After `lib/debug/debug.h`. `error` prints its text and panics. `runtime_assert` is taken with
assertions on, so a failed one stops the core. Three more ends are the model's own: an access that
C leaves undefined, a division by zero, and a loop that never ends. Printing is left out throughout, and so is
`send_string_message`, whose only effect is commented out in the source.
-/

namespace UsbSec

open Library

/-- Why a core does not go on. -/
inductive Halt where
  | error (text : String)
  | assertion
  | undefined
  | divisionByZero
  | hang
  deriving DecidableEq, Repr

variable {σ α : Type}

/-- `error(text)`: panic. -/
def error (text : String) : Program Halt σ α := Program.stop (.error text)

/-- `runtime_assert(condition)`. -/
def runtimeAssert (condition : Prop) [Decidable condition] : Program Halt σ Unit :=
  Program.require condition .assertion

/-- An access that is defined only under `condition`, such as an array index in range. -/
def defined (condition : Prop) [Decidable condition] : Program Halt σ Unit :=
  Program.require condition .undefined

/-- A division by `divisor` follows. -/
def divides (divisor : UInt16) : Program Halt σ Unit :=
  Program.require (divisor ≠ 0) .divisionByZero

end UsbSec
