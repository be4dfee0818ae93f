/-!
# Machines

What a machine has room for.  Two things need more of it the larger a document gets: the characters
of a text that is written, and the arrays and objects that are open at once in a text that is read.
How much there is of either is left open, so what is shown of programs holds on every machine.

Nothing else is bounded.  In particular files of any length are held, and values that nest as deep
as they like are written, compared and walked, where a run whose calls are limited would give up.
-/

namespace AbiDoc

/-- What a machine has room for. -/
class Machine where
  /-- The characters that a text can have which is written. -/
  maxLength : Nat
  /-- The arrays and objects that can be open at once in a text that is read. -/
  maxNesting : Nat

/-- A machine of an ordinary size.  Programs run on it when no other is given, and so do examples;
what is shown of all machines makes no use of it. -/
instance (priority := low) Machine.standard : Machine where
  maxLength := 0x100000000
  maxNesting := 990

/-- The memories that a machine can run out of. -/
inductive Memory where
  /-- The memory for texts. -/
  | heap
  /-- The memory for what is open. -/
  | stack
  deriving DecidableEq, Repr

end AbiDoc
