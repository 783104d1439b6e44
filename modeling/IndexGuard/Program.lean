/-
**The program's name and version.**
-/

namespace IndexGuard.Program

/-- The name of the program. -/
def name : String := "libris"

/-- The version of the program. -/
def version : String := "0.1.0"

end IndexGuard.Program
