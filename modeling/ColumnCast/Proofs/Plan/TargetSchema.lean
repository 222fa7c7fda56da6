import ColumnCast.Plan.Schema.Reader
import ColumnCast.Proofs.Plan.Build

/-!
# The schema that a plan announces

A plan announces a schema in which the columns of a planned path have the target type. Rules are
validated for the first column of a path only, while every column of that path is announced
anew. So what is announced has been validated for the columns that have the type of the first one
of their path (`Plan.targetSchema_announces`), but not always for a column of another type
(`Plan.targetSchema_unvalidated`).
-/

namespace ColumnCast

/-- A column **can become** a type that it has or that it has a converter to. -/
def Column.CanBecome (column : Column) (t : ColumnType) : Prop :=
  t = column.type ∨
    ∃ (target : TargetType) (c : Converter),
      target.toColumnType = t ∧ Converter.build column.type target = .ok c

variable {schema : Schema} {column : Column} {rule : FieldRule} {rules : List FieldRule}

namespace Plan

variable {plan : Plan}

/-- The column as a plan announces it. -/
theorem columns_targetSchema (plan : Plan) (schema : Schema) :
    (plan.targetSchema schema).columns = schema.columns.map fun column =>
      match plan.column? column.path with
      | some planned => { column with type := planned.target.toColumnType }
      | none => column :=
  rfl

/-- A column of the type that a rule has been validated for can become its target. -/
private theorem canBecome_of_planned {planned : PlannedColumn} {first : Column}
    (hplanned : planColumn schema rule = .ok planned)
    (hfirst : schema.column? rule.path = some first) (hsame : first.type = column.type) :
    column.CanBecome planned.target.toColumnType := by
  obtain ⟨other, hother, hsource, -, hconverter⟩ := planColumn_eq_ok_iff.mp hplanned
  obtain rfl : first = other := Option.some.inj (hfirst.symm.trans hother)
  rw [← hsource, hsame] at hconverter
  exact .inr ⟨_, _, rfl, hconverter⟩

/-- **What a plan announces.** Every column keeps its place and its path. Its type becomes the
target of the rule of that path or stays where there is none, and the column can become the type
that is announced if it has the type of the first column of its path. -/
theorem targetSchema_announces (h : build schema rules = .ok plan) :
    (plan.targetSchema schema).columns.length = schema.columns.length ∧
      ∀ (i : ℕ) (column : Column), schema.columns[i]? = some column →
        ∃ announced : Column, (plan.targetSchema schema).columns[i]? = some announced ∧
          announced.path = column.path ∧
          (∀ rule ∈ rules, rule.path = column.path → announced.type = rule.target.toColumnType) ∧
          ((∀ rule ∈ rules, rule.path ≠ column.path) → announced.type = column.type) ∧
          ∀ first, schema.column? column.path = some first → first.type = column.type →
            column.CanBecome announced.type := by
  rw [columns_targetSchema]
  refine ⟨List.length_map _, fun i column hcolumn => ?_⟩
  rw [List.getElem?_map, hcolumn, Option.map_some]
  refine ⟨_, rfl, ?_⟩
  cases hplan : plan.column? column.path with
  | none =>
    have hnone := (column?_eq_none_iff h).mp hplan
    exact ⟨rfl, fun rule hrule hpath => absurd hpath (hnone rule hrule), fun _ => rfl,
      fun _ _ _ => .inl rfl⟩
  | some planned =>
    obtain ⟨rule, hrule, hpath, hplanned⟩ := (column?_eq_some_iff h).mp hplan
    obtain ⟨-, -, -, htarget, -⟩ := planColumn_eq_ok_iff.mp hplanned
    refine ⟨rfl, fun other hother hsame => ?_, fun hnone => absurd hpath (hnone rule hrule),
      fun first hfirst hsame => canBecome_of_planned hplanned (hpath ▸ hfirst) hsame⟩
    have honly : other = rule :=
      List.inj_on_of_nodup_map (build_eq_ok_iff.mp h).1 hother hrule (hsame.trans hpath.symm)
    rw [honly, htarget]

/-- Of two columns the second is planned, and it can become what is announced. -/
theorem targetSchema_announces_double :
    ((Plan.mk [("b", ⟨⟨.float, .bare⟩, ⟨⟨.double, .bare⟩, rfl⟩,
        .numeric ⟨.float, .double, by decide⟩⟩)]).targetSchema
          ⟨[⟨"a", ⟨.boolean, .bare⟩⟩, ⟨"b", ⟨.float, .bare⟩⟩]⟩).columns[1]? =
        some ⟨"b", ⟨.double, .bare⟩⟩ ∧
      Column.CanBecome ⟨"b", ⟨.float, .bare⟩⟩ ⟨.double, .bare⟩ := by
  have hbuild : build ⟨[⟨"a", ⟨.boolean, .bare⟩⟩, ⟨"b", ⟨.float, .bare⟩⟩]⟩
      [⟨"b", ⟨⟨.double, .bare⟩, rfl⟩⟩] =
        .ok ⟨[("b", ⟨⟨.float, .bare⟩, ⟨⟨.double, .bare⟩, rfl⟩,
          .numeric ⟨.float, .double, by decide⟩⟩)]⟩ :=
    rfl
  obtain ⟨-, hcolumns⟩ := targetSchema_announces hbuild
  obtain ⟨announced, hannounced, -, -, -, hcan⟩ := hcolumns 1 ⟨"b", ⟨.float, .bare⟩⟩ rfl
  obtain rfl : ⟨"b", ⟨.double, .bare⟩⟩ = announced := Option.some.inj hannounced
  exact ⟨rfl, hcan ⟨"b", ⟨.float, .bare⟩⟩ rfl rfl⟩

/-- A column is announced as what it cannot become: the second column of a path has truth values,
and the rule has been validated for the integers of the first one. -/
theorem targetSchema_unvalidated :
    ∃ (schema : Schema) (rule : FieldRule) (plan : Plan) (column announced : Column),
      (Schema.parse ("columns:\n  - path: a\n    type: INT32:NONE\n" ++
        "  - path: a\n    type: BOOLEAN:NONE\n")).toOption = some schema ∧
      build schema [rule] = .ok plan ∧ schema.columns[1]? = some column ∧
      (plan.targetSchema schema).columns[1]? = some announced ∧
      ¬ column.CanBecome announced.type := by
  refine ⟨⟨[⟨"a", ⟨.int32, .bare⟩⟩, ⟨"a", ⟨.boolean, .bare⟩⟩]⟩, ⟨"a", ⟨⟨.int64, .bare⟩, rfl⟩⟩,
    ⟨[("a", ⟨⟨.int32, .bare⟩, ⟨⟨.int64, .bare⟩, rfl⟩, .numeric ⟨.int32, .int64, by decide⟩⟩)]⟩,
    ⟨"a", ⟨.boolean, .bare⟩⟩, ⟨"a", ⟨.int64, .bare⟩⟩, by decide +kernel, rfl, rfl, rfl, ?_⟩
  have hrefused : Converter.build ⟨.boolean, .bare⟩ ⟨⟨.int64, .bare⟩, rfl⟩ =
      .error (.unsupportedConversion "BOOLEAN" "INT64") := by
    decide +kernel
  rintro (h | ⟨⟨t, hsound⟩, c, htarget, hbuild⟩)
  · cases h
  · obtain rfl : t = ⟨.int64, .bare⟩ := htarget
    exact absurd (hrefused.symm.trans hbuild) nofun

end Plan

end ColumnCast
