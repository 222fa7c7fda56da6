import ColumnCast.Proofs.Plan.Build

/-!
# Carrying out rules

A list of rules is carried out when the rules have different paths, each path is that of a
column, and the first column of each can be converted (`Plannable`). Otherwise the first rule
that cannot follow the ones before it says why (`FieldRule.Fails`). What a plan owes its rules is
`Plan.CarriesOut`; `Plan.build_carries_out` joins the three and adds that the order of the rules
does not matter.
-/

namespace ColumnCast

/-! ### What is asked for -/

/-- The column is the **first** one of the schema with this path. -/
def Schema.IsFirst (schema : Schema) (path : String) (column : Column) : Prop :=
  ∃ before after, schema.columns = before ++ column :: after ∧ column.path = path ∧
    ∀ other ∈ before, other.path ≠ path

/-- Rules that can be carried out. -/
structure Plannable (schema : Schema) (rules : List FieldRule) : Prop where
  distinct : rules.Pairwise fun rule other => rule.path ≠ other.path
  named : ∀ rule ∈ rules, ∃ column ∈ schema.columns, column.path = rule.path
  convertible : ∀ rule ∈ rules, ∀ column, schema.IsFirst rule.path column →
    ∃ converter, Converter.build column.type rule.target = .ok converter

/-- What a rule is **planned as**: the conversion of the first column with its path. -/
structure FieldRule.PlannedAs (schema : Schema) (rule : FieldRule) (planned : PlannedColumn) :
    Prop where
  source : ∃ column, schema.IsFirst rule.path column ∧ column.type = planned.source
  target : rule.target = planned.target
  converter : Converter.build planned.source planned.target = .ok planned.converter

/-- Why a rule **fails** that follows rules with the paths `seen`. That a path comes again counts
before everything else. -/
inductive FieldRule.Fails (schema : Schema) (seen : List String) (rule : FieldRule) :
    PlanError → Prop where
  | repeated (hseen : rule.path ∈ seen) : Fails schema seen rule (.duplicateField rule.path)
  | unknown (hnew : rule.path ∉ seen)
      (hnone : ∀ column ∈ schema.columns, column.path ≠ rule.path) :
      Fails schema seen rule (.unknownField rule.path)
  | unconvertible {column : Column} {cause : ConversionError} (hnew : rule.path ∉ seen)
      (hfirst : schema.IsFirst rule.path column)
      (hrefused : Converter.build column.type rule.target = .error cause) :
      Fails schema seen rule (.unconvertible rule.path cause)

/-- A plan **carries out** rules when it has an entry for each rule and no others, goes through
them in the byte order of their paths, converts the values of a named path as the converter of its
rule does, with the path put to an error, and keeps all other values. -/
structure Plan.CarriesOut (plan : Plan) (schema : Schema) (rules : List FieldRule) : Prop where
  entries : ∃ sorted : List FieldRule, sorted.Perm rules ∧
    List.Forall₂ (fun rule entry => rule.path = entry.1 ∧ rule.PlannedAs schema entry.2)
      sorted plan.columns
  ordered : plan.columns.Pairwise fun a b => Utf8.encode a.1.toList < Utf8.encode b.1.toList
  converts : ∀ rule ∈ rules, ∀ column converter, schema.IsFirst rule.path column →
    Converter.build column.type rule.target = .ok converter →
      ∀ v, plan.convert rule.path v = (converter.convert v).mapError (.value rule.path)
  keeps : ∀ path, (∀ rule ∈ rules, rule.path ≠ path) → ∀ v, plan.convert path v = .ok v

variable {schema : Schema} {rule : FieldRule} {rules : List FieldRule} {path : String}
  {column : Column} {planned : PlannedColumn} {seen : List String} {e : PlanError}

/-! ### The column of a rule -/

namespace Schema

private theorem column?_eq_some_iff :
    schema.column? path = some column ↔ schema.IsFirst path column := by
  rw [column?, List.find?_eq_some_iff_append]
  simp only [decide_eq_true_eq, Bool.not_eq_true', decide_eq_false_iff_not]
  constructor
  · rintro ⟨hpath, before, after, hcolumns, hbefore⟩
    exact ⟨before, after, hcolumns, hpath, hbefore⟩
  · rintro ⟨before, after, hcolumns, hpath, hbefore⟩
    exact ⟨hpath, before, after, hcolumns, hbefore⟩

private theorem column?_eq_none_iff :
    schema.column? path = none ↔ ∀ column ∈ schema.columns, column.path ≠ path := by
  rw [column?, List.find?_eq_none]
  simp only [decide_eq_true_eq, ne_eq]

private theorem IsFirst.unique {other : Column} (h : schema.IsFirst path column)
    (h' : schema.IsFirst path other) : column = other :=
  Option.some.inj ((column?_eq_some_iff.mpr h).symm.trans (column?_eq_some_iff.mpr h'))

/-- A path that some column has is that of a first one. -/
private theorem exists_isFirst_iff :
    (∃ column, schema.IsFirst path column) ↔ ∃ column ∈ schema.columns, column.path = path := by
  simp only [← column?_eq_some_iff, ← Option.isSome_iff_exists, column?, List.find?_isSome,
    decide_eq_true_eq]

end Schema

/-! ### One rule -/

namespace FieldRule

/-- A rule is planned as `planColumn` says. -/
theorem planColumn_eq_ok_iff_plannedAs :
    planColumn schema rule = .ok planned ↔ rule.PlannedAs schema planned := by
  rw [planColumn_eq_ok_iff]
  simp only [Schema.column?_eq_some_iff]
  constructor
  · rintro ⟨first, hfirst, hsource, htarget, hconverter⟩
    exact ⟨⟨first, hfirst, hsource⟩, htarget, hconverter⟩
  · rintro ⟨⟨first, hfirst, hsource⟩, htarget, hconverter⟩
    exact ⟨first, hfirst, hsource, htarget, hconverter⟩

/-- A rule for a column that can be converted is planned. -/
private theorem planColumn_of_isFirst {converter : Converter}
    (hfirst : schema.IsFirst rule.path column)
    (hbuild : Converter.build column.type rule.target = .ok converter) :
    planColumn schema rule = .ok ⟨column.type, rule.target, converter⟩ :=
  planColumn_eq_ok_iff_plannedAs.mpr ⟨⟨column, hfirst, rfl⟩, rfl, hbuild⟩

/-- A rule is planned when it names a column and the first one can be converted. -/
private theorem exists_planColumn_iff :
    (∃ planned, planColumn schema rule = .ok planned) ↔
      (∃ column ∈ schema.columns, column.path = rule.path) ∧
        ∀ column, schema.IsFirst rule.path column →
          ∃ converter, Converter.build column.type rule.target = .ok converter := by
  rw [← Schema.exists_isFirst_iff]
  constructor
  · rintro ⟨planned, hplanned⟩
    -- there is one first column only, the one that is planned
    obtain ⟨⟨first, hfirst, hsource⟩, htarget, hconverter⟩ :=
      planColumn_eq_ok_iff_plannedAs.mp hplanned
    refine ⟨⟨first, hfirst⟩, fun column hcolumn => ⟨planned.converter, ?_⟩⟩
    rw [hcolumn.unique hfirst, hsource, htarget, hconverter]
  · rintro ⟨⟨first, hfirst⟩, hall⟩
    obtain ⟨converter, hconverter⟩ := hall first hfirst
    exact ⟨_, planColumn_of_isFirst hfirst hconverter⟩

/-- Why a rule is not planned. -/
private theorem planColumn_eq_error_iff :
    planColumn schema rule = .error e ↔
      (∀ column ∈ schema.columns, column.path ≠ rule.path) ∧ .unknownField rule.path = e ∨
        ∃ column cause, schema.IsFirst rule.path column ∧
          Converter.build column.type rule.target = .error cause ∧
            .unconvertible rule.path cause = e := by
  simp only [← Schema.column?_eq_none_iff, ← Schema.column?_eq_some_iff]
  unfold planColumn
  cases hfirst : schema.column? rule.path with
  | none => simp
  | some first =>
    cases hbuild : Converter.build first.type rule.target with
    | ok converter => simp [hbuild]
    | error cause => simp [hbuild]

/-- The error of a rule that follows rules with the paths `seen`. -/
def failure? (schema : Schema) (seen : List String) (rule : FieldRule) : Option PlanError :=
  if rule.path ∈ seen then some (.duplicateField rule.path)
  else
    match planColumn schema rule with
    | .error e => some e
    | .ok _ => none

private theorem failure?_eq_some_iff :
    rule.failure? schema seen = some e ↔ rule.Fails schema seen e := by
  have hfailure : rule.failure? schema seen = some e ↔
      (rule.path ∈ seen ∧ .duplicateField rule.path = e) ∨
        (rule.path ∉ seen ∧ planColumn schema rule = .error e) := by
    unfold failure?
    by_cases hseen : rule.path ∈ seen
    · simp [hseen]
    · cases planColumn schema rule <;> simp [hseen]
  rw [hfailure, planColumn_eq_error_iff]
  constructor
  · rintro (⟨hseen, rfl⟩ | ⟨hnew, ⟨hnone, rfl⟩ | ⟨column, cause, hfirst, hrefused, rfl⟩⟩)
    · exact .repeated hseen
    · exact .unknown hnew hnone
    · exact .unconvertible hnew hfirst hrefused
  · rintro (hseen | ⟨hnew, hnone⟩ | ⟨hnew, hfirst, hrefused⟩)
    · exact .inl ⟨hseen, rfl⟩
    · exact .inr ⟨hnew, .inl ⟨hnone, rfl⟩⟩
    · exact .inr ⟨hnew, .inr ⟨_, _, hfirst, hrefused, rfl⟩⟩

/-- The order in which paths have been named does not matter. -/
private theorem failure?_perm {seen' : List String} (h : seen.Perm seen') :
    rule.failure? schema seen = rule.failure? schema seen' := by
  unfold failure?
  simp only [h.mem_iff]

end FieldRule

/-! ### The first rule that fails -/

/-- One step: the rule fails, or the ones after it may. -/
private theorem planSteps_cons_snd :
    (planSteps schema seen (rule :: rules)).2 =
      (rule.failure? schema seen).or (planSteps schema (rule.path :: seen) rules).2 := by
  rw [planSteps, FieldRule.failure?]
  split_ifs
  · rfl
  · cases planColumn schema rule with
    | error e => rfl
    | ok planned => rfl

/-- The failure of a list of rules is that of the first one that fails; the ones before it have
been planned. -/
private theorem planSteps_snd_eq_some_iff :
    (planSteps schema seen rules).2 = some e ↔
      ∃ earlier rule later, rules = earlier ++ rule :: later ∧
        (planSteps schema seen earlier).2 = none ∧
          rule.failure? schema (earlier.map FieldRule.path ++ seen) = some e := by
  induction rules generalizing seen with
  | nil =>
    refine iff_of_false nofun ?_
    rintro ⟨earlier, rule, later, hrules, -⟩
    exact List.append_ne_nil_of_right_ne_nil _ (List.cons_ne_nil _ _) hrules.symm
  | cons first rest ih =>
    -- the path of the first rule joins those that have been seen
    have hseen (earlier : List FieldRule) (rule : FieldRule) :
        rule.failure? schema ((first :: earlier).map FieldRule.path ++ seen) =
          rule.failure? schema (earlier.map FieldRule.path ++ first.path :: seen) :=
      FieldRule.failure?_perm List.perm_middle.symm
    rw [planSteps_cons_snd, Option.or_eq_some_iff, ih]
    constructor
    · rintro (hfails | ⟨hnone, earlier, rule, later, rfl, hearlier, hfails⟩)
      · exact ⟨[], first, rest, rfl, rfl, hfails⟩
      · refine ⟨first :: earlier, rule, later, rfl, ?_, (hseen earlier rule).trans hfails⟩
        rw [planSteps_cons_snd, hnone, hearlier, Option.none_or]
    · rintro ⟨earlier, rule, later, hrules, hearlier, hfails⟩
      cases earlier with
      | nil =>
        obtain ⟨rfl, rfl⟩ := List.cons.inj hrules
        exact .inl hfails
      | cons _ earlier =>
        obtain ⟨rfl, rfl⟩ := List.cons.inj hrules
        rw [planSteps_cons_snd, Option.or_eq_none_iff] at hearlier
        exact .inr ⟨hearlier.1, earlier, rule, later, rfl, hearlier.2,
          (hseen earlier rule).symm.trans hfails⟩

/-! ### Plans and their rules -/

namespace Plan

variable {plan : Plan}

private theorem build_eq_error_iff :
    build schema rules = .error e ↔ (planSteps schema [] rules).2 = some e := by
  unfold build
  obtain ⟨columns, failure⟩ := planSteps schema [] rules
  cases failure with
  | none => exact iff_of_false nofun nofun
  | some failure => simp

/-- Rules are carried out when none of them fails. -/
private theorem exists_build_iff_snd_eq_none :
    (∃ plan, build schema rules = .ok plan) ↔ (planSteps schema [] rules).2 = none := by
  unfold build
  obtain ⟨columns, failure⟩ := planSteps schema [] rules
  cases failure with
  | none => exact iff_of_true ⟨_, rfl⟩ rfl
  | some failure => exact iff_of_false nofun nofun

/-- A plan is built for the rules that can be carried out. -/
private theorem exists_build_iff_plannable :
    (∃ plan, build schema rules = .ok plan) ↔ Plannable schema rules := by
  rw [exists_build_iff, List.nodup_iff_pairwise_ne, List.pairwise_map]
  simp only [FieldRule.exists_planColumn_iff]
  constructor
  · rintro ⟨hdistinct, hplanned⟩
    exact ⟨hdistinct, fun rule hrule => (hplanned rule hrule).1,
      fun rule hrule => (hplanned rule hrule).2⟩
  · rintro ⟨hdistinct, hnamed, hconvertible⟩
    exact ⟨hdistinct, fun rule hrule => ⟨hnamed rule hrule, hconvertible rule hrule⟩⟩

/-- A plan has one entry for each of its rules. -/
theorem exists_perm_forall₂ (h : build schema rules = .ok plan) :
    ∃ sorted : List FieldRule, sorted.Perm rules ∧
      List.Forall₂ (fun rule entry => rule.path = entry.1 ∧ rule.PlannedAs schema entry.2)
        sorted plan.columns := by
  obtain ⟨-, columns, heq, rfl⟩ := build_eq_ok_iff.mp h
  have hrules : List.Forall₂
      (fun rule entry => rule.path = entry.1 ∧ rule.PlannedAs schema entry.2) rules columns := by
    rw [← List.forall₂_eq_eq_eq, List.forall₂_map_left_iff, List.forall₂_map_right_iff] at heq
    refine heq.imp fun rule entry hentry => ?_
    obtain ⟨hpath, hplanned⟩ := attempt_eq_success_iff.mp hentry
    exact ⟨hpath, FieldRule.planColumn_eq_ok_iff_plannedAs.mp hplanned⟩
  -- the rules follow their entries into the order of the paths
  obtain ⟨sorted, hentries, hperm⟩ :=
    List.perm_comp_forall₂ (ofColumns_perm columns) hrules.flip
  exact ⟨sorted, hperm, hentries.flip⟩

private theorem convert_of_column?_eq_some {planned : PlannedColumn}
    (h : plan.column? path = some planned) (v : Value) :
    plan.convert path v = (planned.converter.convert v).mapError (.value path) := by
  simp only [convert, h]
  cases planned.converter.convert v with
  | ok w => rfl
  | error cause => rfl

private theorem convert_of_column?_eq_none (h : plan.column? path = none) (v : Value) :
    plan.convert path v = .ok v := by
  rw [convert, h]

/-- A plan that is built carries out its rules. -/
private theorem carriesOut (h : build schema rules = .ok plan) : plan.CarriesOut schema rules where
  entries := exists_perm_forall₂ h
  ordered := bytes_ordered h
  converts rule hrule _ _ hfirst hbuild := convert_of_column?_eq_some <|
    (column?_eq_some_iff h).mpr
      ⟨rule, hrule, rfl, FieldRule.planColumn_of_isFirst hfirst hbuild⟩
  keeps _ hnone := convert_of_column?_eq_none ((column?_eq_none_iff h).mpr hnone)

/-- **Plans and their rules.** A plan is built exactly for rules with different paths that each
name a column, the first of which can be converted. The plan carries out these rules and is the
same for each order of them. The error of other rules is that of the first one in their order
that cannot follow the ones before it. -/
theorem build_carries_out (schema : Schema) (rules : List FieldRule) :
    ((∃ plan, build schema rules = .ok plan) ↔ Plannable schema rules) ∧
      (∀ plan, build schema rules = .ok plan → plan.CarriesOut schema rules ∧
        ∀ rules' : List FieldRule, rules'.Perm rules → build schema rules' = .ok plan) ∧
      ∀ e, build schema rules = .error e ↔
        ∃ earlier rule later, rules = earlier ++ rule :: later ∧ Plannable schema earlier ∧
          rule.Fails schema (earlier.map FieldRule.path) e := by
  refine ⟨exists_build_iff_plannable, fun plan h => ⟨carriesOut h, fun rules' => build_perm h⟩,
    fun e => ?_⟩
  rw [build_eq_error_iff, planSteps_snd_eq_some_iff]
  simp only [← exists_build_iff_snd_eq_none, exists_build_iff_plannable, List.append_nil,
    FieldRule.failure?_eq_some_iff]

/-- The rules for two columns are carried out in the order of the paths, whichever comes first. -/
theorem build_carries_out_two :
    Plannable ⟨[⟨"b", ⟨.int32, .bare⟩⟩, ⟨"a", ⟨.float, .bare⟩⟩]⟩
        [⟨"b", ⟨⟨.int64, .bare⟩, rfl⟩⟩, ⟨"a", ⟨⟨.double, .bare⟩, rfl⟩⟩] ∧
      build ⟨[⟨"b", ⟨.int32, .bare⟩⟩, ⟨"a", ⟨.float, .bare⟩⟩]⟩
          [⟨"a", ⟨⟨.double, .bare⟩, rfl⟩⟩, ⟨"b", ⟨⟨.int64, .bare⟩, rfl⟩⟩] =
        .ok ⟨[("a", ⟨⟨.float, .bare⟩, ⟨⟨.double, .bare⟩, rfl⟩,
            .numeric ⟨.float, .double, by decide⟩⟩),
          ("b", ⟨⟨.int32, .bare⟩, ⟨⟨.int64, .bare⟩, rfl⟩,
            .numeric ⟨.int32, .int64, by decide⟩⟩)]⟩ := by
  obtain ⟨hbuilt, hplan, -⟩ := build_carries_out
    ⟨[⟨"b", ⟨.int32, .bare⟩⟩, ⟨"a", ⟨.float, .bare⟩⟩]⟩
    [⟨"b", ⟨⟨.int64, .bare⟩, rfl⟩⟩, ⟨"a", ⟨⟨.double, .bare⟩, rfl⟩⟩]
  exact ⟨hbuilt.mp ⟨_, rfl⟩, (hplan _ rfl).2 _ (.swap _ _ _)⟩

end Plan

end ColumnCast
