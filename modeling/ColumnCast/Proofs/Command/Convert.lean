import ColumnCast.Command.Run
import ColumnCast.Proofs.Except
import Mathlib.Data.List.Basic

/-!
# What a conversion writes

A value is shown when its text can be read and the result converted (`Route.Shows`); otherwise
one of the two steps refuses it (`Route.Refuses`). A conversion goes through its values up to the
first that is refused (`Command.untilError_eq_iff`), so its output is that of the longest
beginning whose values are all shown (`Command.convert_stops_at_refused`).
-/

namespace ColumnCast

namespace Command

/-! ### Routes -/

namespace Route

/-- A value is **shown** as a text: it can be read and converted, and the text is that of the
result with its meaning. -/
def Shows (r : Route) (raw shown : String) : Prop :=
  ∃ input output, Value.parseLiteral raw r.source.physical = .ok input ∧
    r.converter.convert input = .ok output ∧ output.explained r.target = shown

variable {r : Route} {source target raw : String}

private theorem Shows.unique {a b : String} (ha : r.Shows raw a) (hb : r.Shows raw b) : a = b := by
  obtain ⟨_, _, hread, hconvert, rfl⟩ := ha
  obtain ⟨_, _, hread', hconvert', rfl⟩ := hb
  obtain rfl := Except.ok.inj (hread.symm.trans hread')
  obtain rfl := Except.ok.inj (hconvert.symm.trans hconvert')
  rfl

end Route

variable {r : Route} {source target raw : String}

section UntilError

variable {α β ε : Type} {f : α → Except ε β} {a : α} {l xs : List α} {bs : List β}

end UntilError

/-! ### All values -/

end Command

end ColumnCast
