/-!
# Powers

In this library `^` on natural numbers and on integers is multiplication repeated,
as the kernel evaluates it on numerals, whatever other powers are in scope where a
module is read.
-/

namespace TcpJournal

attribute [scoped instance (20000)] instPowNat

attribute [default_instance 20000] instPowNat

end TcpJournal
