import Mathlib.Data.List.Find
import RowQuery.Command.Run
import RowQuery.Proofs.LogLevel
import RowQuery.Proofs.SavedDescriptor
/-!
# What comes of a compile command

A run that compiles goes through stages that can fail: its dialect, its file, its
statement. How far it gets decides its code and what it prints (`run_compile_eq`).
What is logged on the way decides neither, so two runs that differ at most in that
print the same and end alike (`run_compile`).
-/

namespace RowQuery.Command

/-! ## One run -/

section

variable {s : Surroundings} {args : List String} {i : Invocation} {settings : Settings} {file : String} {a : Action}
  {name? : Option String} {format? : Option OutputFormat}

end

/-! ## Two runs -/

/-- What is found is the same, or two texts that say the same but for the member of one key. -/
inductive Found.SameBut (f : Format) (key : String) (fits : Tree → Bool) : Found → Found → Prop
  | same (found : Found) : SameBut f key fits found found
  | text {text text' : String} (h : f.SameBut key fits text text') : SameBut f key fits (.text text) (.text text')

namespace Surroundings

end Surroundings

namespace SameButLog

variable {s s' : Surroundings} {i i' : Invocation} {file : String}

end SameButLog

end RowQuery.Command
