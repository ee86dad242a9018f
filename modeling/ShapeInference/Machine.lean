import ShapeInference.Failure
import ShapeInference.Value.Basic

/-!
# Machines

Whatever is asked for is done by a machine with some memory and some stack. How much of them there
is, and how much a step takes, stays open: a machine is told by what it runs out of, and nothing is
assumed of that.

- `maxLength`: the largest number that lengths and widths are counted with;
- `Shortage`: what a machine can run out of, and `Shortage.failure`, what happens then;
- `Machine`: a machine, by what it runs out of;
- `Machine.boundless`: a machine that runs out of nothing.
-/

namespace ShapeInference

/-- The largest number that lengths and widths are counted with, on every machine. -/
def maxLength : Nat := Nat.pow 2 63 - 1

/-- What a machine can run out of. -/
inductive Shortage where
  | memory
  /-- The stack, in a call of some kind, which has its place in the message. -/
  | stack (place : Text)
  deriving DecidableEq, Repr

/-- The failure of a step that runs out of something. -/
def Shortage.failure : Shortage → Failure
  | memory => .exhausted
  | stack place => .tooDeep place

/-- A machine, by what it runs out of. -/
structure Machine where
  /-- Whether there is memory for this many positions and for what is picked at them. -/
  holds : Nat → Bool
  /-- What inference with a strategy from a document runs out of, if it does, and after how many
  events. -/
  inferring : Strategy → Value → Option (Nat × Shortage)
  /-- What making the text of a shape with an indent runs out of, if it does before it comes to a
  margin that cannot be counted. What is put around that text belongs to it. -/
  writing : Shape → Nat → Option Shortage

/-- A machine that runs out of nothing. -/
def Machine.boundless : Machine where
  holds _ := true
  inferring _ _ := none
  writing _ _ := none

end ShapeInference
