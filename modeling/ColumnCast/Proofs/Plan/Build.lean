import ColumnCast.Plan.Basic
import ColumnCast.Proofs.Text.Utf8
import Mathlib.Data.List.Nodup
import Mathlib.Data.List.Perm.Basic
import Mathlib.Data.List.Sort
import Mathlib.Data.Set.List
import Mathlib.Data.String.Basic

/-!
# Which plans are built

A plan is built when the rules have different paths and each of them can be planned
(`Plan.build_eq_ok_iff`). A rule is planned for the first column with its path
(`planColumn_eq_ok_iff`), and what the plan then holds for a path is what the rule of that path
is planned as (`Plan.column?_eq_some_iff`).

A plan goes through its columns in the byte order of their paths (`Plan.bytes_ordered`), so it is
determined by its entries (`Plan.eq_of_mem_iff`), and the order of the rules does not matter
(`Plan.build_perm`).
-/

namespace ColumnCast

variable {schema : Schema} {rule : FieldRule} {rules : List FieldRule} {path : String}
  {planned : PlannedColumn} {entry : String × PlannedColumn}
  {columns : List (String × PlannedColumn)}

/-- Where the keys of a list are different, the element that is found by its key is the only one
with that key. -/
private theorem find?_key_eq_some_iff {α : Type} {key : α → String} {k : String} {l : List α}
    {a : α} (hnodup : (l.map key).Nodup) :
    l.find? (fun x => key x = k) = some a ↔ a ∈ l ∧ key a = k := by
  constructor
  · intro hfind
    exact ⟨List.mem_of_find?_eq_some hfind, by simpa using List.find?_some hfind⟩
  · rintro ⟨hmem, hkey⟩
    have hsome : (l.find? fun x => key x = k).isSome :=
      List.find?_isSome.mpr ⟨a, hmem, decide_eq_true hkey⟩
    obtain ⟨b, hfind⟩ := Option.isSome_iff_exists.mp hsome
    have hkeys : key b = key a := by
      rw [hkey]
      simpa using List.find?_some hfind
    rw [hfind, List.inj_on_of_nodup_map hnodup (List.mem_of_find?_eq_some hfind) hmem hkeys]

/-! ### One rule -/

/-- A rule is planned for the first column with its path, if that column can be converted. -/
theorem planColumn_eq_ok_iff :
    planColumn schema rule = .ok planned ↔
      ∃ first, schema.column? rule.path = some first ∧ first.type = planned.source ∧
        rule.target = planned.target ∧
        Converter.build planned.source planned.target = .ok planned.converter := by
  obtain ⟨source, target, converter⟩ := planned
  unfold planColumn
  constructor
  · intro h
    split at h
    · cases h
    · next first hfirst =>
      split at h
      · next hconverter =>
        obtain ⟨rfl, rfl, rfl⟩ := PlannedColumn.mk.inj (Except.ok.inj h)
        exact ⟨first, hfirst, rfl, rfl, hconverter⟩
      · cases h
  · rintro ⟨first, hfirst, rfl, rfl, hconverter⟩
    simp only [hfirst, hconverter]

/-! ### A list of rules -/

/-- The path of a rule and what comes of planning it. -/
def FieldRule.attempt (schema : Schema) (rule : FieldRule) :
    String × Except PlanError PlannedColumn :=
  (rule.path, planColumn schema rule)

/-- A path and a planned column, as what came of planning. -/
def PlannedColumn.success (entry : String × PlannedColumn) :
    String × Except PlanError PlannedColumn :=
  (entry.1, .ok entry.2)

open FieldRule (attempt)
open PlannedColumn (success)

theorem attempt_eq_success_iff :
    attempt schema rule = success entry ↔
      rule.path = entry.1 ∧ planColumn schema rule = .ok entry.2 := by
  rw [attempt, success, Prod.mk.injEq]

private theorem success_injective : Function.Injective success := by
  rintro ⟨path, planned⟩ ⟨path', planned'⟩ h
  obtain ⟨hpath, hplanned⟩ := Prod.mk.inj h
  exact Prod.ext hpath (Except.ok.inj hplanned)

/-- One step: the path of the rule is new and the rule can be planned. -/
private theorem planSteps_cons_eq_none_iff {seen : List String} :
    planSteps schema seen (rule :: rules) = (columns, none) ↔
      rule.path ∉ seen ∧ ∃ entry tail, columns = entry :: tail ∧
        attempt schema rule = success entry ∧
          planSteps schema (rule.path :: seen) rules = (tail, none) := by
  simp only [attempt_eq_success_iff]
  rw [planSteps]
  split_ifs with hseen
  · exact iff_of_false (by simp) fun h => h.1 hseen
  · cases hplanned : planColumn schema rule with
    | error e =>
      refine iff_of_false (by simp) ?_
      rintro ⟨-, entry, tail, -, ⟨-, hentry⟩, -⟩
      cases hentry
    | ok planned =>
      obtain ⟨tail, failure⟩ := planSteps schema (rule.path :: seen) rules
      simp only [Prod.mk.injEq]
      constructor
      · rintro ⟨rfl, rfl⟩
        exact ⟨hseen, _, _, rfl, ⟨rfl, rfl⟩, rfl, rfl⟩
      · rintro ⟨-, ⟨path, _⟩, _, rfl, ⟨rfl, hentry⟩, rfl, rfl⟩
        rw [Except.ok.inj hentry]
        exact ⟨rfl, rfl⟩

/-- All steps succeed when every rule has a path of its own and can be planned; they give the
planned columns in the order of the rules. -/
private theorem planSteps_eq_none_iff {seen : List String} :
    planSteps schema seen rules = (columns, none) ↔
      (∀ rule ∈ rules, rule.path ∉ seen) ∧ (rules.map FieldRule.path).Nodup ∧
        rules.map (attempt schema) = columns.map success := by
  induction rules generalizing seen columns with
  | nil =>
    rw [planSteps, Prod.mk.injEq]
    simp [eq_comm (a := ([] : List (String × PlannedColumn)))]
  | cons rule rest ih =>
    -- the path of this rule joins the ones that the rest must not name again
    have hpaths : (∀ other ∈ rest, other.path ∉ rule.path :: seen) ↔
        rule.path ∉ rest.map FieldRule.path ∧ ∀ other ∈ rest, other.path ∉ seen := by
      simp [forall_and]
    rw [planSteps_cons_eq_none_iff, List.forall_mem_cons, List.map_cons, List.map_cons,
      List.nodup_cons, eq_comm (a := attempt schema rule :: _), List.map_eq_cons_iff]
    simp only [ih, hpaths]
    constructor
    · rintro ⟨hnew, entry, tail, rfl, hentry, ⟨hfirst, hseen⟩, hnodup, htail⟩
      exact ⟨⟨hnew, hseen⟩, ⟨hfirst, hnodup⟩, entry, tail, rfl, hentry.symm, htail.symm⟩
    · rintro ⟨⟨hnew, hseen⟩, ⟨hfirst, hnodup⟩, entry, tail, rfl, hentry, htail⟩
      exact ⟨hnew, entry, tail, rfl, hentry.symm, ⟨hfirst, hseen⟩, hnodup, htail.symm⟩

/-! ### Bringing entries into order -/

/-- Entries are inserted in the order of their paths. -/
private theorem insertByPath_eq_orderedInsert (entry : String × PlannedColumn)
    (columns : List (String × PlannedColumn)) :
    insertByPath entry columns = columns.orderedInsert (Order.Preimage Prod.fst (· ≤ ·)) entry := by
  induction columns with
  | nil => rfl
  | cons other rest ih =>
    rw [insertByPath, List.orderedInsert_cons, ih]
    by_cases h : other.1 < entry.1
    · exact (if_pos h).trans (if_neg (not_le_of_gt h)).symm
    · exact (if_neg h).trans (if_pos (le_of_not_gt h)).symm

namespace Plan

/-- The entries of a plan are sorted by their paths. -/
private theorem columns_ofColumns (columns : List (String × PlannedColumn)) :
    (ofColumns columns).columns = columns.insertionSort (Order.Preimage Prod.fst (· ≤ ·)) :=
  congrArg (columns.foldr · []) (funext₂ insertByPath_eq_orderedInsert)

/-- Bringing entries into order neither loses nor adds one. -/
theorem ofColumns_perm (columns : List (String × PlannedColumn)) :
    (ofColumns columns).columns.Perm columns := by
  rw [columns_ofColumns]
  exact List.perm_insertionSort _ columns

/-! ### Built plans -/

variable {plan : Plan}

/-- **Which plans are built.** A plan is built when the rules have different paths and all of
them can be planned, and it is made of what they are planned as. -/
theorem build_eq_ok_iff :
    build schema rules = .ok plan ↔
      (rules.map FieldRule.path).Nodup ∧
        ∃ columns, rules.map (attempt schema) = columns.map success ∧ ofColumns columns = plan := by
  have hsteps (columns : List (String × PlannedColumn)) :
      planSteps schema [] rules = (columns, none) ↔
        (rules.map FieldRule.path).Nodup ∧ rules.map (attempt schema) = columns.map success := by
    rw [planSteps_eq_none_iff]
    exact and_iff_right fun _ _ => List.not_mem_nil
  unfold build
  constructor
  · intro h
    split at h
    · cases h
    · next columns hcolumns =>
      obtain ⟨hnodup, heq⟩ := (hsteps columns).mp hcolumns
      exact ⟨hnodup, columns, heq, Except.ok.inj h⟩
  · rintro ⟨hnodup, columns, heq, rfl⟩
    rw [(hsteps columns).mpr ⟨hnodup, heq⟩]

/-- The entries of a plan are those of its rules. -/
theorem mem_columns_iff (h : build schema rules = .ok plan) :
    entry ∈ plan.columns ↔
      ∃ rule ∈ rules, rule.path = entry.1 ∧ planColumn schema rule = .ok entry.2 := by
  obtain ⟨-, columns, heq, rfl⟩ := build_eq_ok_iff.mp h
  rw [(ofColumns_perm columns).mem_iff, ← List.mem_map_of_injective success_injective, ← heq,
    List.mem_map]
  simp only [attempt_eq_success_iff]

/-- Every rule of a plan has an entry. -/
theorem exists_planned (h : build schema rules = .ok plan) (hrule : rule ∈ rules) :
    ∃ planned, planColumn schema rule = .ok planned := by
  obtain ⟨-, columns, heq, -⟩ := build_eq_ok_iff.mp h
  have hmem : attempt schema rule ∈ columns.map success := heq ▸ List.mem_map_of_mem hrule
  obtain ⟨entry, -, hentry⟩ := List.mem_map.mp hmem
  exact ⟨entry.2, (attempt_eq_success_iff.mp hentry.symm).2⟩

/-- Rules are carried out when they have different paths and each of them can be planned. -/
theorem exists_build_iff :
    (∃ plan, build schema rules = .ok plan) ↔
      (rules.map FieldRule.path).Nodup ∧
        ∀ rule ∈ rules, ∃ planned, planColumn schema rule = .ok planned := by
  constructor
  · rintro ⟨plan, h⟩
    exact ⟨(build_eq_ok_iff.mp h).1, fun rule hrule => exists_planned h hrule⟩
  · rintro ⟨hnodup, hplanned⟩
    -- the planned columns of all rules, gathered in a list
    have hrange : rules.map (attempt schema) ∈ Set.range (List.map success) := by
      rw [Set.range_list_map]
      intro a ha
      obtain ⟨rule, hrule, rfl⟩ := List.mem_map.mp ha
      obtain ⟨planned, hrule⟩ := hplanned rule hrule
      exact ⟨(rule.path, planned), (attempt_eq_success_iff.mpr ⟨rfl, hrule⟩).symm⟩
    obtain ⟨columns, hcolumns⟩ := hrange
    exact ⟨_, build_eq_ok_iff.mpr ⟨hnodup, columns, hcolumns.symm, rfl⟩⟩

/-- No two entries of a plan have the same path. -/
private theorem nodup_paths (h : build schema rules = .ok plan) :
    (plan.columns.map Prod.fst).Nodup := by
  obtain ⟨hnodup, columns, heq, rfl⟩ := build_eq_ok_iff.mp h
  have hpaths : rules.map FieldRule.path = columns.map Prod.fst := by
    simpa [Function.comp_def, attempt, success] using congrArg (List.map Prod.fst) heq
  rw [((ofColumns_perm columns).map Prod.fst).nodup_iff, ← hpaths]
  exact hnodup

/-- **What a plan holds for a path** is what the rule of that path is planned as. -/
theorem column?_eq_some_iff (h : build schema rules = .ok plan) :
    plan.column? path = some planned ↔
      ∃ rule ∈ rules, rule.path = path ∧ planColumn schema rule = .ok planned := by
  rw [column?, Option.map_eq_some_iff]
  simp only [find?_key_eq_some_iff (nodup_paths h), mem_columns_iff h]
  constructor
  · rintro ⟨⟨_, _⟩, ⟨⟨rule, hrule, hpath, hplanned⟩, rfl⟩, rfl⟩
    exact ⟨rule, hrule, hpath, hplanned⟩
  · rintro ⟨rule, hrule, hpath, hplanned⟩
    exact ⟨(path, planned), ⟨⟨rule, hrule, hpath, hplanned⟩, rfl⟩, rfl⟩

/-- A plan holds nothing for a path that no rule names. -/
theorem column?_eq_none_iff (h : build schema rules = .ok plan) :
    plan.column? path = none ↔ ∀ rule ∈ rules, rule.path ≠ path := by
  rw [Option.eq_none_iff_forall_ne_some]
  constructor
  · intro hnone rule hrule hpath
    obtain ⟨planned, hplanned⟩ := exists_planned h hrule
    exact hnone planned ((column?_eq_some_iff h).mpr ⟨rule, hrule, hpath, hplanned⟩)
  · intro hnot planned hplanned
    obtain ⟨rule, hrule, hpath, -⟩ := (column?_eq_some_iff h).mp hplanned
    exact hnot rule hrule hpath

/-! ### The order of a plan -/

variable {rules' : List FieldRule} {plan' : Plan}

/-- The paths of a plan ascend. -/
private theorem ordered (h : build schema rules = .ok plan) :
    plan.columns.Pairwise (Order.Preimage Prod.fst (· < ·)) := by
  have hsorted : plan.columns.Pairwise (Order.Preimage Prod.fst (· ≤ ·)) := by
    obtain ⟨-, columns, -, rfl⟩ := build_eq_ok_iff.mp h
    rw [columns_ofColumns]
    exact List.pairwise_insertionSort _ columns
  have hdistinct : plan.columns.Pairwise fun a b => a.1 ≠ b.1 :=
    List.pairwise_map.mp (nodup_paths h)
  exact (hsorted.and hdistinct).imp fun hab => lt_of_le_of_ne hab.1 hab.2

/-- **The order of a plan** is that of the bytes of its paths. -/
theorem bytes_ordered (h : build schema rules = .ok plan) :
    plan.columns.Pairwise fun a b => Utf8.encode a.1.toList < Utf8.encode b.1.toList :=
  (ordered h).imp fun hab => Utf8.encode_lt_iff.mpr hab

/-- Plans with the same entries are the same. -/
theorem eq_of_mem_iff (h : build schema rules = .ok plan) (h' : build schema rules' = .ok plan')
    (hmem : ∀ entry, entry ∈ plan.columns ↔ entry ∈ plan'.columns) : plan = plan' :=
  congrArg Plan.mk ((ordered h).eq_of_mem_iff (ordered h') hmem)

/-- **The order of the rules** does not matter for the plan. -/
theorem build_perm (h : build schema rules = .ok plan) (hperm : rules'.Perm rules) :
    build schema rules' = .ok plan := by
  obtain ⟨hnodup, hplanned⟩ := exists_build_iff.mp ⟨plan, h⟩
  obtain ⟨plan', h'⟩ : ∃ plan', build schema rules' = .ok plan' :=
    exists_build_iff.mpr ⟨(hperm.map _).nodup_iff.mpr hnodup,
      fun rule hrule => hplanned rule (hperm.mem_iff.mp hrule)⟩
  -- entries come from rules, wherever these stand
  have hmem (entry : String × PlannedColumn) : entry ∈ plan'.columns ↔ entry ∈ plan.columns := by
    rw [mem_columns_iff h', mem_columns_iff h]
    simp only [hperm.mem_iff]
  rw [h', eq_of_mem_iff h' h hmem]

end Plan

end ColumnCast
