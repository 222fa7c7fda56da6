import ColumnCast.Proofs.ColumnType.Grammar

/-!
# Type texts that are written

The text that is written for a column type describes it (`Descriptor.describes_text`), and a text
describes one type (`Descriptor.Describes.unique`). A text that describes a type is read as this
type or has a fault of the kind that the type has, so that reading what was written agrees with
making a target of the type (`TargetType.read_text_agrees`).
-/

namespace ColumnCast

/-! ### Names -/

private theorem Carrier.name_injective : Function.Injective name := by
  intro a b h
  have ha := ofName?_eq_some_iff.mpr h
  rw [ofName?_eq_some_iff.mpr rfl] at ha
  exact (Option.some.inj ha).symm

private theorem LogicalName.text_injective : Function.Injective text := by
  intro a b h
  have ha := ofText?_eq_some_iff.mpr h
  rw [ofText?_eq_some_iff.mpr rfl] at ha
  exact (Option.some.inj ha).symm

/-- A physical type is a carrier with or without a length. -/
private theorem Physical.eq_of_carrier {p q : Physical} (hcarrier : p.carrier = q.carrier)
    (hlength : p.fixedLength? = q.fixedLength?) : p = q := by
  cases p <;> cases q <;> simp_all [carrier, fixedLength?]

/-- A logical type is a name with or without the parameters of a decimal. -/
private theorem Logical.eq_of_name {l m : Logical} (hname : l.name = m.name)
    (hdecimal : l.decimal? = m.decimal?) : l = m := by
  cases l <;> cases m <;> simp_all [name, decimal?]

namespace Descriptor

open Text (AllBlank BetweenBlanks Trimmed)
open Numeral (Writes)

variable {cs part raw : List Char} {p q : Physical} {l m : Logical} {t u : ColumnType}

/-! ### A text describes one type -/

/-- The parameters behind a name, as far as there are any, are numerals of a length. -/
def LengthParameters (params : Option (List Char)) (length : Option UInt32) : Prop :=
  Option.Rel (fun raw n => Writes raw n.toNat) params length

/-- The parameters behind a name, as far as there are any, are numerals of a decimal type. -/
def DecimalNumerals (params : Option (List Char)) (decimal : Option DecimalType) : Prop :=
  Option.Rel (fun raw d => ∃ first second, (Text.splitAll ',' raw).map Text.trim = [first, second] ∧
    Writes first d.precision.toNat ∧ Writes second d.scale.toNat) params decimal

private theorem LengthParameters.unique {params : Option (List Char)} {n k : Option UInt32}
    (hn : LengthParameters params n) (hk : LengthParameters params k) : n = k := by
  cases hn with
  | none =>
    cases hk with
    | none => rfl
  | some hn =>
    cases hk with
    | some hk => rw [UInt32.toNat_inj.mp (Int.ofNat_inj.mp (hn.unique hk))]

private theorem DecimalNumerals.unique {params : Option (List Char)} {d e : Option DecimalType}
    (hd : DecimalNumerals params d) (he : DecimalNumerals params e) : d = e := by
  cases hd with
  | none =>
    cases he with
    | none => rfl
  | @some raw d hd =>
    cases he with
    | @some _ e he =>
      obtain ⟨first, second, hpieces, hprecision, hscale⟩ := hd
      obtain ⟨first', second', hpieces', hprecision', hscale'⟩ := he
      obtain ⟨rfl, rfl⟩ : first = first' ∧ second = second' := by
        simpa using hpieces.symm.trans hpieces'
      have hprecisions : d.precision = e.precision :=
        UInt32.toNat_inj.mp (Int.ofNat_inj.mp (hprecision.unique hprecision'))
      have hscales : d.scale = e.scale :=
        UInt32.toNat_inj.mp (Int.ofNat_inj.mp (hscale.unique hscale'))
      cases d
      cases e
      simp_all

/-- A text of a physical type has its name and, for a length, a numeral of it. -/
private theorem physicalText_iff_token (hpart : Trimmed part) :
    PhysicalText p part ↔
      ∃ params, token part = .ok ⟨p.name, params⟩ ∧ LengthParameters params p.fixedLength? := by
  rw [PhysicalText]
  cases p.fixedLength? with
  | none =>
    rw [Physical.name, ← token_eq_ok_none_iff (Carrier.isName _) hpart]
    constructor
    · exact fun htoken => ⟨none, htoken, .none⟩
    · rintro ⟨_, htoken, ⟨⟩⟩
      exact htoken
  | some n =>
    rw [Physical.name]
    simp only [called_length_iff (Carrier.isName _)]
    constructor
    · rintro ⟨raw, htoken, hraw⟩
      exact ⟨some raw, htoken, .some hraw⟩
    · rintro ⟨_, htoken, ⟨hraw⟩⟩
      exact ⟨_, htoken, hraw⟩

/-- A text of a logical type has its name and, for a decimal, numerals of both parameters. -/
private theorem logicalText_iff_token (hpart : Trimmed part) :
    LogicalText l part ↔
      ∃ params, token part = .ok ⟨l.name.text, params⟩ ∧ DecimalNumerals params l.decimal? := by
  rw [LogicalText]
  cases l.decimal? with
  | none =>
    dsimp only
    rw [← token_eq_ok_none_iff (LogicalName.isName _) hpart]
    constructor
    · exact fun htoken => ⟨none, htoken, .none⟩
    · rintro ⟨_, htoken, ⟨⟩⟩
      exact htoken
  | some d =>
    simp only [called_decimal_iff (LogicalName.isName _)]
    constructor
    · rintro ⟨raw, htoken, hraw⟩
      exact ⟨some raw, htoken, .some hraw⟩
    · rintro ⟨_, htoken, ⟨hraw⟩⟩
      exact ⟨_, htoken, hraw⟩

private theorem PhysicalText.unique (hp : PhysicalText p part) (hq : PhysicalText q part) :
    p = q := by
  obtain ⟨params, htoken, hn⟩ := (physicalText_iff_token hp.trimmed).mp hp
  obtain ⟨params', htoken', hk⟩ := (physicalText_iff_token hp.trimmed).mp hq
  obtain ⟨hname, rfl⟩ := Token.mk.inj (Except.ok.inj (htoken.symm.trans htoken'))
  exact Physical.eq_of_carrier (Carrier.name_injective hname) (hn.unique hk)

private theorem LogicalText.unique (hl : LogicalText l part) (hm : LogicalText m part) : l = m := by
  obtain ⟨params, htoken, hd⟩ := (logicalText_iff_token hl.trimmed).mp hl
  obtain ⟨params', htoken', he⟩ := (logicalText_iff_token hl.trimmed).mp hm
  obtain ⟨hname, rfl⟩ := Token.mk.inj (Except.ok.inj (htoken.symm.trans htoken'))
  exact Logical.eq_of_name (LogicalName.text_injective hname) (hd.unique he)

/-- **The grammar is unambiguous.** A text describes one type at most. -/
theorem Describes.unique (ht : Describes t cs) (hu : Describes u cs) : t = u := by
  obtain ⟨left, right, rfl, hcolon, hleft, hright⟩ := ht
  obtain ⟨left', right', heq, hcolon', hleft', hright'⟩ := hu
  -- the first colon cuts both readings at the same place
  obtain ⟨rfl, rfl⟩ := Text.append_mark_inj heq hcolon hcolon'
  have hphysical (p : Physical) : BetweenBlanks (PhysicalText p) left ↔
      PhysicalText p (Text.trim left) :=
    Text.betweenBlanks_iff fun _ h => h.trimmed
  have hlogical (l : Logical) : BetweenBlanks (LogicalText l) right ↔
      LogicalText l (Text.trim right) :=
    Text.betweenBlanks_iff fun _ h => h.trimmed
  obtain ⟨physical, logical⟩ := t
  obtain ⟨physical', logical'⟩ := u
  rw [((hphysical physical).mp hleft).unique ((hphysical physical').mp hleft'),
    ((hlogical logical).mp hright).unique ((hlogical logical').mp hright')]

/-! ### Written texts -/

/-- Names are written in upper case. -/
private theorem upper_name (carrier : Carrier) :
    Text.upper carrier.name.toList = carrier.name.toList := by
  cases carrier <;> decide

private theorem upper_text (name : LogicalName) :
    Text.upper name.text.toList = name.text.toList := by
  cases name with
  | timestamp unit => cases unit <;> decide
  | time unit => cases unit <;> decide
  | _ => decide

private theorem Called.of_inner {name : String} {P : List Char → Prop} {inner : List Char}
    (hupper : Text.upper name.toList = name.toList) (h : P inner) :
    Called name P (name.toList ++ '(' :: (inner ++ [')'])) :=
  ⟨name.toList, [], inner, hupper, nofun, h, rfl⟩

private theorem toList_text_fixedLenByteArray (n : UInt32) :
    (Physical.fixedLenByteArray n).text.toList =
      Carrier.fixedLenByteArray.name.toList ++ '(' :: (Numeral.ofNat n.toNat ++ [')']) := by
  have hopen : "FIXED_LEN_BYTE_ARRAY(".toList =
      Carrier.fixedLenByteArray.name.toList ++ ['('] := by
    decide
  change ("FIXED_LEN_BYTE_ARRAY(" ++ String.ofList _ ++ ")").toList = _
  simp only [String.toList_append, hopen, String.toList_ofList]
  simp

private theorem toList_text_decimal (d : DecimalType) :
    (Logical.decimal d).text.toList = LogicalName.decimal.text.toList ++
      '(' :: (Numeral.ofNat d.precision.toNat ++ ',' :: Numeral.ofNat d.scale.toNat ++ [')']) := by
  have hopen : "DECIMAL(".toList = LogicalName.decimal.text.toList ++ ['('] := by decide
  change ("DECIMAL(" ++ String.ofList _ ++ "," ++ String.ofList _ ++ ")").toList = _
  simp only [String.toList_append, hopen, String.toList_ofList]
  simp

private theorem physicalText_text (p : Physical) : PhysicalText p p.text.toList := by
  cases p with
  | fixedLenByteArray length =>
    rw [toList_text_fixedLenByteArray]
    exact Called.of_inner (upper_name _) (.intro (Numeral.writes_ofNat _))
  | _ => exact upper_name _

private theorem logicalText_text (l : Logical) : LogicalText l l.text.toList := by
  cases l with
  | decimal d =>
    rw [toList_text_decimal]
    exact Called.of_inner (upper_text _)
      ⟨_, _, rfl, .intro (Numeral.writes_ofNat _), .intro (Numeral.writes_ofNat _)⟩
  | _ => exact upper_text _

private theorem colon_notMem_text (p : Physical) : ':' ∉ p.text.toList := by
  cases p with
  | fixedLenByteArray length =>
    have hnumeral : ':' ∉ Numeral.ofNat length.toNat := by
      intro hmem
      have hnat := (Numeral.writes_ofNat length.toNat).toNat_mem hmem
      revert hnat
      decide
    have hname : ':' ∉ Carrier.fixedLenByteArray.name.toList := by decide
    rw [toList_text_fixedLenByteArray]
    simp [hnumeral, hname]
  | _ => decide

/-- **The text of a column type describes it.** -/
theorem describes_text (t : ColumnType) : Describes t t.text.toList := by
  have htext : t.text.toList = t.physical.text.toList ++ ':' :: t.logical.text.toList := by
    rw [ColumnType.text, String.toList_append, String.toList_append, List.append_assoc]
    rfl
  exact ⟨_, _, htext, colon_notMem_text _, .intro (physicalText_text _),
    .intro (logicalText_text _)⟩

/-! ### Reading what describes a type -/

private theorem length_of_writes_zero (h : Writes raw 0) :
    length raw = .error (.lengthNotPositive 0) := by
  have hnumeral : numeral .length raw = .ok 0 :=
    numeral_eq_ok_iff.mpr ⟨h, by omega, by omega⟩
  unfold length
  rw [hnumeral]
  rfl

private theorem decimalType_of_precision_zero {d : DecimalType} (hzero : d.precision = 0)
    (h : DecimalNumerals (some raw) (some d)) : decimalType raw = .error .precisionNotPositive := by
  cases h with
  | some h =>
    obtain ⟨first, second, hpieces, hprecision, hscale⟩ := h
    have hlt := d.scale.toNat_lt
    rw [hzero] at hprecision
    have hfirst : numeral .precision first = .ok 0 :=
      numeral_eq_ok_iff.mpr ⟨hprecision, by omega, by omega⟩
    have hsecond : numeral .scale second = .ok d.scale.toNat :=
      numeral_eq_ok_iff.mpr ⟨hscale, by omega, by omega⟩
    unfold decimalType
    rw [hpieces]
    simp only [hfirst, hsecond]
    rfl

/-- A text of a physical type is read as this type, unless its length is zero. -/
private theorem physical_of_text (h : PhysicalText p part) :
    physical part = .ok p ∨
      p = .fixedLenByteArray 0 ∧ physical part = .error (.lengthNotPositive 0) := by
  by_cases hp : p = .fixedLenByteArray 0
  · subst hp
    obtain ⟨_, htoken, ⟨hraw⟩⟩ := (physicalText_iff_token h.trimmed).mp h
    refine .inr ⟨rfl, ?_⟩
    unfold physical
    rw [htoken]
    exact congrArg (· >>= fun n => .ok (Physical.fixedLenByteArray n)) (length_of_writes_zero hraw)
  · refine .inl ((physical_eq_ok_iff h.trimmed).mpr ⟨h, fun n hn => ?_⟩)
    obtain rfl := Physical.fixedLength?_eq_some_iff.mp hn
    exact UInt32.pos_iff_ne_zero.mpr fun hzero => hp (hzero ▸ rfl)

/-- A text of a logical type is read as this type, unless it is a decimal without digits. -/
private theorem logical_of_text (h : LogicalText l part) :
    logical part = .ok l ∨
      ∃ d, l = .decimal d ∧ d.precision = 0 ∧ logical part = .error .precisionNotPositive := by
  by_cases hl : ∃ d, l = .decimal d ∧ d.precision = 0
  · obtain ⟨d, rfl, hzero⟩ := hl
    obtain ⟨_ | raw, htoken, hnumerals⟩ := (logicalText_iff_token h.trimmed).mp h
    · cases hnumerals
    · refine .inr ⟨d, rfl, hzero, ?_⟩
      unfold logical
      rw [htoken]
      exact congrArg (· >>= fun d => .ok (Logical.decimal d))
        (decimalType_of_precision_zero hzero hnumerals)
  · refine .inl ((logical_eq_ok_iff h.trimmed).mpr ⟨h, fun d hd => ?_⟩)
    have hdecimal := Logical.decimal?_eq_some_iff.mp hd
    exact UInt32.pos_iff_ne_zero.mpr fun hzero => hl ⟨d, hdecimal, hzero⟩

/-- Two sides that are not blank are read one after the other. -/
theorem pair_of_sides {left right : List Char} (hcolon : ':' ∉ left) (hleft : Text.trim left ≠ [])
    (hright : Text.trim right ≠ []) :
    pair (left ++ ':' :: right) = (do
      return ⟨← physical (Text.trim left), ← logical (Text.trim right)⟩) := by
  rw [pair_append_colon hcolon, if_neg hleft, if_neg hright]

/-- A text that describes a type is read as this type, unless a parameter is zero that must not
be; this breaks a constraint, and the type is not usable. -/
theorem pair_of_describes (h : Describes t cs) :
    pair cs = .ok t ∨
      ¬t.Usable ∧ ∃ fault, pair cs = .error fault ∧ fault.kind = .constraint := by
  obtain ⟨left, right, rfl, hcolon, hleft, hright⟩ := h
  have hp : PhysicalText t.physical (Text.trim left) :=
    (Text.betweenBlanks_iff fun _ h => h.trimmed).mp hleft
  have hl : LogicalText t.logical (Text.trim right) :=
    (Text.betweenBlanks_iff fun _ h => h.trimmed).mp hright
  -- both sides have a token, and an empty text has none
  have hnil : token [] = .error (.malformedToken "") := rfl
  have hleftNe : Text.trim left ≠ [] := by
    intro heq
    obtain ⟨params, htoken, -⟩ := (physicalText_iff_token hp.trimmed).mp hp
    simp [heq, hnil] at htoken
  have hrightNe : Text.trim right ≠ [] := by
    intro heq
    obtain ⟨params, htoken, -⟩ := (logicalText_iff_token hl.trimmed).mp hl
    simp [heq, hnil] at htoken
  rw [pair_of_sides hcolon hleftNe hrightNe]
  rcases physical_of_text hp with hphysical | ⟨hzero, hphysical⟩
  · rcases logical_of_text hl with hlogical | ⟨d, hd, hzero, hlogical⟩
    · rw [hphysical, hlogical]
      exact .inl rfl
    · rw [hphysical, hlogical]
      refine .inr ⟨fun husable => ?_, _, rfl, rfl⟩
      exact absurd hzero (UInt32.pos_iff_ne_zero.mp (husable.decimal d hd).precision_pos)
  · rw [hphysical]
    refine .inr ⟨fun husable => ?_, _, rfl, rfl⟩
    exact absurd (husable.length_pos 0 hzero) (by decide)

end Descriptor

/-! ### Reading and making -/

namespace ColumnType

variable {fault : SpecFault}

private theorem kind_of_decimalFault? {p : Physical} {d : DecimalType}
    (h : decimalFault? p d = some fault) : fault.kind = .constraint := by
  unfold decimalFault? at h
  split_ifs at h
  · exact Option.some.inj h ▸ rfl
  · exact Option.some.inj h ▸ rfl
  · exact Option.some.inj h ▸ rfl
  · split at h
    · cases h
    · split_ifs at h
      exact Option.some.inj h ▸ rfl

/-- The rules of pairing are constraints. -/
private theorem kind_of_fault? {t : ColumnType} (h : t.fault? = some fault) :
    fault.kind = .constraint := by
  -- each check of a carrier finds nothing or its own fault
  have hcheck {c : Prop} [Decidable c] {found : SpecFault} (hfound : found.kind = .constraint)
      (h : (if c then none else some found) = some fault) : fault.kind = .constraint := by
    split_ifs at h
    exact Option.some.inj h ▸ hfound
  obtain ⟨physical, logical⟩ := t
  unfold fault? at h
  split_ifs at h
  · exact Option.some.inj h ▸ rfl
  · cases logical with
    | timestamp unit => exact hcheck rfl h
    | string => exact hcheck rfl h
    | date => exact hcheck rfl h
    | decimal d => exact kind_of_decimalFault? h
    | _ => cases h

theorem exists_fault {t : ColumnType} (h : ¬t.Usable) :
    ∃ fault, TargetType.ofColumnType t = .error fault ∧ fault.kind = .constraint := by
  rw [← fault?_eq_none_iff] at h
  unfold TargetType.ofColumnType
  split
  · next hnone => exact absurd hnone h
  · next fault hfault => exact ⟨fault, rfl, kind_of_fault? hfault⟩

end ColumnType

namespace TargetType

variable {t u : ColumnType} {text : String}

/-- A usable type is made a target. -/
private theorem make_eq_ok (target : TargetType) : make target.toColumnType = .ok target := by
  rw [make, ofColumnType_eq_ok_iff.mpr rfl]

private theorem make_of_not_usable (h : ¬t.Usable) :
    ∃ fault, fault.kind = .constraint ∧ make t = .error (.specification t.text fault) := by
  obtain ⟨fault, hfault, hkind⟩ := ColumnType.exists_fault h
  exact ⟨fault, hkind, by rw [make, hfault]⟩

/-- A text that describes the type of a target is read as this target. -/
private theorem read_of_describes {target : TargetType}
    (h : Descriptor.Describes target.toColumnType text.toList) : read text = .ok target := by
  rcases Descriptor.pair_of_describes h with hpair | ⟨hnot, -⟩
  · exact read_eq_ok_iff.mpr hpair
  · exact absurd target.usable hnot

/-- A text that describes a type that is not usable is refused for a constraint. -/
private theorem read_of_describes_not_usable (h : Descriptor.Describes t text.toList)
    (hnot : ¬t.Usable) :
    ∃ fault, fault.kind = .constraint ∧ read text = .error (.specification text fault) := by
  have hparse : ∃ fault, fault.kind = .constraint ∧ parse text = .error fault := by
    rcases Descriptor.pair_of_describes h with hpair | ⟨-, fault, hpair, hkind⟩
    · obtain ⟨fault, hfault, hkind⟩ := ColumnType.exists_fault hnot
      exact ⟨fault, hkind, by rw [parse, hpair]; exact hfault⟩
    · exact ⟨fault, hkind, by rw [parse, hpair]; rfl⟩
  obtain ⟨fault, hkind, hparse⟩ := hparse
  exact ⟨fault, hkind, by rw [read, hparse]⟩

/-- **Writing and reading.** For every column type, reading its text and making it a target give
the same target of that type or are both refused for a constraint, with the text in the error.
Every target is read back from its text, and no two column types have the same text. -/
theorem read_text_agrees :
    (∀ t : ColumnType,
      (t.Usable ∧ ∃ target, target.toColumnType = t ∧ read t.text = .ok target ∧
        make t = .ok target) ∨
      (¬t.Usable ∧ ∃ fault fault', fault.kind = .constraint ∧ fault'.kind = .constraint ∧
        read t.text = .error (.specification t.text fault) ∧
        make t = .error (.specification t.text fault'))) ∧
    (∀ target : TargetType, read target.toColumnType.text = .ok target) ∧
    Function.Injective ColumnType.text := by
  refine ⟨fun t => ?_, fun target => read_of_describes (Descriptor.describes_text _),
    fun t u htext => ?_⟩
  · by_cases husable : t.Usable
    · obtain ⟨target, rfl⟩ : ∃ target : TargetType, target.toColumnType = t :=
        ⟨⟨t, ColumnType.fault?_eq_none_iff.mpr husable⟩, rfl⟩
      exact .inl ⟨husable, target, rfl, read_of_describes (Descriptor.describes_text _),
        make_eq_ok target⟩
    · obtain ⟨fault, hkind, hread⟩ :=
        read_of_describes_not_usable (Descriptor.describes_text t) husable
      obtain ⟨fault', hkind', hmake⟩ := make_of_not_usable husable
      exact .inr ⟨husable, fault, fault', hkind, hkind', hread, hmake⟩
  · have hu := Descriptor.describes_text u
    rw [← htext] at hu
    exact (Descriptor.describes_text t).unique hu

end TargetType

end ColumnCast
