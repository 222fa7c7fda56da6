import ColumnCast.Plan.Basic
import ColumnCast.Proofs.ColumnType.Token
import ColumnCast.Proofs.ColumnType.Usable

/-!
# The grammar of type texts

`Descriptor.Describes` says, without reference to the reader, which texts describe a column type.
The reader accepts the texts that describe a usable type, and reads that type from them
(`TargetType.exists_read_iff`).
-/

namespace ColumnCast

/-! ### Names -/

namespace Carrier

theorem isName (carrier : Carrier) : Descriptor.IsName carrier.name.toList := by
  cases carrier <;> exact ⟨by decide, List.all_eq_true.mp (by decide)⟩

theorem ofName?_eq_some_iff {name : String} {carrier : Carrier} :
    ofName? name = some carrier ↔ carrier.name = name := by
  constructor
  · intro h
    simpa using List.find?_some h
  · rintro rfl
    cases carrier <;> rfl

theorem ofName?_eq_none_iff {name : String} :
    ofName? name = none ↔ ¬∃ carrier : Carrier, carrier.name = name := by
  rw [Option.eq_none_iff_forall_ne_some, not_exists]
  exact forall_congr' fun _ => ofName?_eq_some_iff.not

end Carrier

namespace LogicalName

theorem isName (name : LogicalName) : Descriptor.IsName name.text.toList := by
  cases name with
  | timestamp unit => cases unit <;> exact ⟨by decide, List.all_eq_true.mp (by decide)⟩
  | time unit => cases unit <;> exact ⟨by decide, List.all_eq_true.mp (by decide)⟩
  | _ => exact ⟨by decide, List.all_eq_true.mp (by decide)⟩

theorem ofText?_eq_some_iff {text : String} {name : LogicalName} :
    ofText? text = some name ↔ name.text = text := by
  constructor
  · intro h
    simpa using List.find?_some h
  · rintro rfl
    cases name with
    | timestamp unit => cases unit <;> rfl
    | time unit => cases unit <;> rfl
    | _ => rfl

theorem ofText?_eq_none_iff {text : String} :
    ofText? text = none ↔ ¬∃ name : LogicalName, name.text = text := by
  rw [Option.eq_none_iff_forall_ne_some, not_exists]
  exact forall_congr' fun _ => ofText?_eq_some_iff.not

end LogicalName

theorem Physical.fixedLength?_eq_some_iff {p : Physical} {length : UInt32} :
    p.fixedLength? = some length ↔ p = .fixedLenByteArray length := by
  cases p <;> simp [fixedLength?]

theorem Logical.decimal?_eq_some_iff {l : Logical} {d : DecimalType} :
    l.decimal? = some d ↔ l = .decimal d := by
  cases l <;> simp [decimal?]

namespace Descriptor

open Text (AllBlank BetweenBlanks Trimmed)
open Numeral (Writes)

variable {cs part : List Char} {name : String} {c : Char}

/-! ### The grammar -/

/-- The parameters of a decimal type: its precision and its scale with a comma between them. -/
def DecimalParameters (d : DecimalType) (inner : List Char) : Prop :=
  ∃ first second, inner = first ++ ',' :: second ∧
    BetweenBlanks (Writes · d.precision.toNat) first ∧
    BetweenBlanks (Writes · d.scale.toNat) second

/-- The texts of a physical type: its name, which is called with the length if there is one. -/
def PhysicalText (p : Physical) (part : List Char) : Prop :=
  match p.fixedLength? with
  | none => Text.upper part = p.name.toList
  | some length => Called p.name (BetweenBlanks (Writes · length.toNat)) part

/-- The texts of a logical type: its name, which is called with the parameters of a decimal. -/
def LogicalText (l : Logical) (part : List Char) : Prop :=
  match l.decimal? with
  | none => Text.upper part = l.name.text.toList
  | some d => Called l.name.text (DecimalParameters d) part

/-- The texts that **describe** a column type: a text of its physical type and a text of its
logical type, with blanks around them and the first colon between them. -/
def Describes (t : ColumnType) (cs : List Char) : Prop :=
  ∃ left right, cs = left ++ ':' :: right ∧ ':' ∉ left ∧
    BetweenBlanks (PhysicalText t.physical) left ∧ BetweenBlanks (LogicalText t.logical) right

/-! ### Texts of names -/

private theorem trimmed_of_upper_eq (hname : IsName name.toList)
    (h : Text.upper part = name.toList) : Trimmed part := by
  refine Text.trimmed_of_forall fun c hc => ?_
  rw [Bool.eq_false_iff]
  intro hblank
  have hupper : c.toUpper = c := (Text.toUpper_eq_iff (Text.isAlpha_of_isBlank hblank)).mpr rfl
  have hmem : c ∈ name.toList := h ▸ List.mem_map.mpr ⟨c, hc, hupper⟩
  have hchar := hname.isNameChar c hmem
  rw [isNameChar_of_isBlank hblank] at hchar
  cases hchar

private theorem Called.trimmed {P : List Char → Prop} (hname : IsName name.toList)
    (h : Called name P part) : Trimmed part := by
  obtain ⟨word, gap, inner, hword, -, -, rfl⟩ := h
  have hne : word ≠ [] := by
    rintro rfl
    exact hname.ne_nil hword.symm
  refine ⟨fun c hc => ?_, fun c hc => ?_⟩
  · rw [List.head?_append_of_ne_nil _ hne] at hc
    exact (trimmed_of_upper_eq hname hword).head c hc
  · have hassoc : word ++ (gap ++ '(' :: (inner ++ [')'])) =
        (word ++ (gap ++ '(' :: inner)) ++ [')'] := by
      simp
    rw [hassoc, List.getLast?_concat] at hc
    obtain rfl := Option.some.inj hc
    decide

/-! ### The two sides -/

private theorem bareCarrier_eq_ok_iff {carrier : Carrier} {p : Physical} :
    bareCarrier carrier = .ok p ↔ p.carrier = carrier ∧ p.fixedLength? = none := by
  cases carrier <;> cases p <;> simp [bareCarrier, Physical.carrier, Physical.fixedLength?]

private theorem bareLogical_eq_ok_iff {name : LogicalName} {l : Logical} :
    bareLogical name = .ok l ↔ l.name = name ∧ l.decimal? = none := by
  cases name <;> cases l <;> simp [bareLogical, Logical.name, Logical.decimal?, eq_comm]

/-- What stands between the parentheses is neither a letter nor a mark. -/
private theorem parameter_char {n : ℤ} (h : BetweenBlanks (Writes · n) cs) (hc : c ∈ cs) :
    c.isAlpha = false ∧ c ∉ [',', '(', ')'] := by
  have hmarks : ∀ mark ∈ [',', '(', ')'], Text.isBlank mark = false := by
    simp [Text.isBlank, Text.blankRanges]
  have hblank {gap : List Char} (hgap : AllBlank gap) (hc : c ∈ gap) :
      c.isAlpha = false ∧ c ∉ [',', '(', ')'] :=
    ⟨Text.isAlpha_of_isBlank (hgap c hc), fun hmem => hgap.notMem (hmarks c hmem) hc⟩
  obtain ⟨before, inner, after, hbefore, hinner, hafter, rfl⟩ := h
  rw [List.mem_append, List.mem_append] at hc
  obtain (hc | hc) | hc := hc
  · exact hblank hbefore hc
  · exact ⟨hinner.isAlpha hc, fun hmem => hinner.notMem hmem hc⟩
  · exact hblank hafter hc

theorem called_length_iff {n : UInt32} (hname : IsName name.toList) :
    Called name (BetweenBlanks (Writes · n.toNat)) part ↔
      ∃ raw, token part = .ok ⟨name, some raw⟩ ∧ Writes raw n.toNat := by
  refine called_iff hname (fun inner h c hc => ?_) fun inner =>
    Text.betweenBlanks_iff fun _ h => h.trimmed
  exact (parameter_char h hc).imp_right (mt (List.mem_cons_of_mem _))

theorem called_decimal_iff {d : DecimalType} (hname : IsName name.toList) :
    Called name (DecimalParameters d) part ↔
      ∃ raw, token part = .ok ⟨name, some raw⟩ ∧
        ∃ first second, (Text.splitAll ',' raw).map Text.trim = [first, second] ∧
          Writes first d.precision.toNat ∧ Writes second d.scale.toNat := by
  refine called_iff hname (fun inner h c hc => ?_) fun inner => ?_
  · obtain ⟨first, second, rfl, hfirst, hsecond⟩ := h
    rw [List.mem_append, List.mem_cons] at hc
    obtain hc | rfl | hc := hc
    · exact (parameter_char hfirst hc).imp_right (mt (List.mem_cons_of_mem _))
    · decide
    · exact (parameter_char hsecond hc).imp_right (mt (List.mem_cons_of_mem _))
  -- a comma is no blank, so the blanks next to the parentheses can go before the cut or after it
  · have hcut := @Text.map_trim_splitAll_trim_eq_pair_iff inner ','
    have htrim {n : ℤ} {cs : List Char} : BetweenBlanks (Writes · n) cs ↔ Writes (Text.trim cs) n :=
      Text.betweenBlanks_iff fun _ h => h.trimmed
    constructor
    · rintro ⟨left, right, rfl, hleft, hright⟩
      have hcomma {n : ℤ} {cs : List Char} (h : BetweenBlanks (Writes · n) cs) : ',' ∉ cs :=
        fun hmem => (parameter_char h hmem).2 List.mem_cons_self
      exact ⟨_, _, (hcut (by decide)).mpr ⟨left, right, rfl, hcomma hleft, hcomma hright, rfl, rfl⟩,
        htrim.mp hleft, htrim.mp hright⟩
    · rintro ⟨first, second, hpieces, hfirst, hsecond⟩
      obtain ⟨left, right, rfl, -, -, rfl, rfl⟩ := (hcut (by decide)).mp hpieces
      exact ⟨left, right, rfl, htrim.mpr hfirst, htrim.mpr hsecond⟩

/-- The physical side is read from a name alone or, for a length, from a name with parameters. -/
private theorem physical_eq_ok_iff_token {p : Physical} :
    physical part = .ok p ↔
      match p.fixedLength? with
      | none => token part = .ok ⟨p.name, none⟩
      | some n => ∃ raw, token part = .ok ⟨p.name, some raw⟩ ∧ length raw = .ok n := by
  unfold physical
  rw [Except.bind_eq_ok_iff]
  constructor
  · rintro ⟨⟨name, params⟩, htoken, h⟩
    split at h
    · cases h
    -- the name of fixed-length byte arrays with a length
    · next raw hname hraw =>
      obtain ⟨n, hn, hp⟩ := Except.bind_eq_ok_iff.mp h
      obtain rfl := Except.ok.inj hp
      obtain rfl := Carrier.ofName?_eq_some_iff.mp hname
      obtain rfl := hraw
      exact ⟨raw, htoken, hn⟩
    · cases h
    -- any name alone
    · next carrier hname hraw =>
      obtain ⟨rfl, hlength⟩ := bareCarrier_eq_ok_iff.mp h
      obtain rfl := Carrier.ofName?_eq_some_iff.mp hname
      obtain rfl := hraw
      rw [hlength]
      exact htoken
  · intro h
    have hcarrier : Carrier.ofName? p.name = some p.carrier := Carrier.ofName?_eq_some_iff.mpr rfl
    cases hlength : p.fixedLength? with
    | none =>
      rw [hlength] at h
      refine ⟨_, h, ?_⟩
      simp only [hcarrier]
      exact bareCarrier_eq_ok_iff.mpr ⟨rfl, hlength⟩
    | some n =>
      obtain rfl := Physical.fixedLength?_eq_some_iff.mp hlength
      obtain ⟨raw, htoken, hn⟩ := h
      exact ⟨_, htoken, Except.bind_eq_ok_iff.mpr ⟨n, hn, rfl⟩⟩

/-- The logical side is read from a name alone or, for a decimal, from a name with parameters. -/
private theorem logical_eq_ok_iff_token {l : Logical} :
    logical part = .ok l ↔
      match l.decimal? with
      | none => token part = .ok ⟨l.name.text, none⟩
      | some d => ∃ raw, token part = .ok ⟨l.name.text, some raw⟩ ∧ decimalType raw = .ok d := by
  unfold logical
  rw [Except.bind_eq_ok_iff]
  constructor
  · rintro ⟨⟨name, params⟩, htoken, h⟩
    split at h
    · cases h
    · next raw hname hraw =>
      obtain ⟨d, hd, hl⟩ := Except.bind_eq_ok_iff.mp h
      obtain rfl := Except.ok.inj hl
      obtain rfl := LogicalName.ofText?_eq_some_iff.mp hname
      obtain rfl := hraw
      exact ⟨raw, htoken, hd⟩
    · cases h
    · next hname hraw =>
      obtain ⟨rfl, hdecimal⟩ := bareLogical_eq_ok_iff.mp h
      obtain rfl := LogicalName.ofText?_eq_some_iff.mp hname
      obtain rfl := hraw
      rw [hdecimal]
      exact htoken
  · intro h
    have hname : LogicalName.ofText? l.name.text = some l.name :=
      LogicalName.ofText?_eq_some_iff.mpr rfl
    cases hdecimal : l.decimal? with
    | none =>
      rw [hdecimal] at h
      refine ⟨_, h, ?_⟩
      simp only [hname]
      exact bareLogical_eq_ok_iff.mpr ⟨rfl, hdecimal⟩
    | some d =>
      obtain rfl := Logical.decimal?_eq_some_iff.mp hdecimal
      obtain ⟨raw, htoken, hd⟩ := h
      exact ⟨_, htoken, Except.bind_eq_ok_iff.mpr ⟨d, hd, rfl⟩⟩

/-- **The physical side** of a type text is read from the texts of a physical type. -/
theorem physical_eq_ok_iff {p : Physical} (hpart : Trimmed part) :
    physical part = .ok p ↔ PhysicalText p part ∧ ∀ n, p.fixedLength? = some n → 0 < n := by
  rw [physical_eq_ok_iff_token, PhysicalText]
  cases p.fixedLength? with
  | none => simp [token_eq_ok_none_iff (Carrier.isName _) hpart, Physical.name]
  | some n =>
    simp only [Physical.name, called_length_iff (Carrier.isName _), length_eq_ok_iff,
      Option.some.injEq, forall_eq']
    constructor
    · rintro ⟨raw, htoken, hpos, hwrites⟩
      exact ⟨⟨raw, htoken, hwrites⟩, hpos⟩
    · rintro ⟨⟨raw, htoken, hwrites⟩, hpos⟩
      exact ⟨raw, htoken, hpos, hwrites⟩

/-- **The logical side** of a type text is read from the texts of a logical type. -/
theorem logical_eq_ok_iff {l : Logical} (hpart : Trimmed part) :
    logical part = .ok l ↔
      LogicalText l part ∧ ∀ d, l.decimal? = some d → 0 < d.precision := by
  rw [logical_eq_ok_iff_token, LogicalText]
  cases l.decimal? with
  | none => simp [token_eq_ok_none_iff (LogicalName.isName _) hpart]
  | some d =>
    simp only [called_decimal_iff (LogicalName.isName _), decimalType_eq_ok_iff,
      Option.some.injEq, forall_eq']
    constructor
    · rintro ⟨raw, htoken, hpos, hpieces⟩
      exact ⟨⟨raw, htoken, hpieces⟩, hpos⟩
    · rintro ⟨⟨raw, htoken, hpieces⟩, hpos⟩
      exact ⟨raw, htoken, hpos, hpieces⟩

/-! ### Whole texts -/

theorem PhysicalText.trimmed {p : Physical} (h : PhysicalText p part) : Trimmed part := by
  unfold PhysicalText at h
  split at h
  · exact trimmed_of_upper_eq (Carrier.isName _) h
  · exact h.trimmed (Carrier.isName _)

theorem LogicalText.trimmed {l : Logical} (h : LogicalText l part) : Trimmed part := by
  unfold LogicalText at h
  split at h
  · exact trimmed_of_upper_eq (LogicalName.isName _) h
  · exact h.trimmed (LogicalName.isName _)

/-- A text with a colon is cut at the first one, and its sides are read one after the other. -/
theorem pair_append_colon {left right : List Char} (hcolon : ':' ∉ left) :
    pair (left ++ ':' :: right) = (do
      if Text.trim left = [] then throw .missingPhysical
      if Text.trim right = [] then throw .missingLogical
      return ⟨← physical (Text.trim left), ← logical (Text.trim right)⟩) := by
  have hne : Text.trim (left ++ ':' :: right) ≠ [] :=
    Text.trim_ne_nil_of_mem List.mem_append_cons_self (by decide)
  unfold pair
  rw [if_neg hne, Text.splitFirst?_eq_some_iff.mpr ⟨rfl, hcolon⟩]

/-- A pair is read from the texts that describe it, if its length and its precision are not
zero. -/
theorem pair_eq_ok_iff {t : ColumnType} :
    pair cs = .ok t ↔
      Describes t cs ∧ (∀ n, t.physical.fixedLength? = some n → 0 < n) ∧
        ∀ d, t.logical.decimal? = some d → 0 < d.precision := by
  have hphysical (part : List Char) : BetweenBlanks (PhysicalText t.physical) part ↔
      PhysicalText t.physical (Text.trim part) :=
    Text.betweenBlanks_iff fun _ h => h.trimmed
  have hlogical (part : List Char) : BetweenBlanks (LogicalText t.logical) part ↔
      LogicalText t.logical (Text.trim part) :=
    Text.betweenBlanks_iff fun _ h => h.trimmed
  unfold Describes
  constructor
  · intro h
    unfold pair at h
    split_ifs at h
    split at h
    · cases h
    · next left right hsplit =>
      obtain ⟨rfl, hcolon⟩ := Text.splitFirst?_eq_some_iff.mp hsplit
      simp only [Except.ite_throw_eq_ok_iff, Except.bind_eq_ok_iff] at h
      obtain ⟨-, -, p, hp, l, hl, ht⟩ := h
      obtain rfl := Except.ok.inj ht
      obtain ⟨hp, hlength⟩ := (physical_eq_ok_iff (Text.trimmed_trim left)).mp hp
      obtain ⟨hl, hprecision⟩ := (logical_eq_ok_iff (Text.trimmed_trim right)).mp hl
      exact ⟨⟨left, right, rfl, hcolon, (hphysical left).mpr hp, (hlogical right).mpr hl⟩,
        hlength, hprecision⟩
  · rintro ⟨⟨left, right, rfl, hcolon, hleft, hright⟩, hlength, hprecision⟩
    have hp := (physical_eq_ok_iff (Text.trimmed_trim left)).mpr
      ⟨(hphysical left).mp hleft, hlength⟩
    have hl := (logical_eq_ok_iff (Text.trimmed_trim right)).mpr
      ⟨(hlogical right).mp hright, hprecision⟩
    -- neither side is read from nothing
    have hleftNe : Text.trim left ≠ [] := fun hnil => by rw [hnil] at hp; cases hp
    have hrightNe : Text.trim right ≠ [] := fun hnil => by rw [hnil] at hl; cases hl
    rw [pair_append_colon hcolon]
    simp only [Except.ite_throw_eq_ok_iff, Except.bind_eq_ok_iff]
    exact ⟨hleftNe, hrightNe, _, hp, _, hl, rfl⟩

end Descriptor

namespace TargetType

theorem read_eq_ok_iff {text : String} {target : TargetType} :
    read text = .ok target ↔ Descriptor.pair text.toList = .ok target.toColumnType := by
  have hread : read text = .ok target ↔ parse text = .ok target := by
    unfold read
    split
    · next t ht => rw [ht, Except.ok.injEq, Except.ok.injEq]
    · next fault hfault => simp [hfault]
  rw [hread, parse, Except.bind_eq_ok_iff]
  simp only [ofColumnType_eq_ok_iff]
  exact ⟨fun ⟨t, hpair, ht⟩ => ht ▸ hpair, fun h => ⟨_, h, rfl⟩⟩

/-- **The grammar of type texts.** A text is read as a target of a column type when it describes
that type and the type is usable. -/
theorem exists_read_iff (text : String) (t : ColumnType) :
    (∃ target, read text = .ok target ∧ target.toColumnType = t) ↔
      Descriptor.Describes t text.toList ∧ t.Usable := by
  constructor
  · rintro ⟨target, hread, rfl⟩
    exact ⟨(Descriptor.pair_eq_ok_iff.mp (read_eq_ok_iff.mp hread)).1, target.usable⟩
  · rintro ⟨hdescribes, husable⟩
    have hlength : ∀ n, t.physical.fixedLength? = some n → 0 < n := fun n hn =>
      husable.length_pos n (Physical.fixedLength?_eq_some_iff.mp hn)
    have hprecision : ∀ d, t.logical.decimal? = some d → 0 < d.precision := fun d hd =>
      (husable.decimal d (Logical.decimal?_eq_some_iff.mp hd)).precision_pos
    have hpair := Descriptor.pair_eq_ok_iff.mpr ⟨hdescribes, hlength, hprecision⟩
    have hsound : t.fault? = none := ColumnType.fault?_eq_none_iff.mpr husable
    exact ⟨⟨t, hsound⟩, read_eq_ok_iff.mpr hpair, rfl⟩

example :
    (TargetType.read " fixed_len_byte_array ( +016 ) :decimal( 9 , -0 ) ").map (·.toColumnType) =
      .ok ⟨.fixedLenByteArray 16, .decimal ⟨9, 0⟩⟩ := by
  decide +kernel

end TargetType

end ColumnCast
