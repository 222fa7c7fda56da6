import ColumnCast.Proofs.ColumnType.Rendering

/-!
# The first fault of a type text

`Descriptor.FirstFault` says of which kind the fault is that a type text is refused for. The text
is cut into its sides before anything else is asked, and the physical side is judged before the
logical one, each by the same rules (`Descriptor.SideFault`): its shape, then its name, then
whether it has the parameters that it needs, then their numerals, and their range last. Whether
the sides fit together counts after both. The reader refuses a text for its first fault
(`TargetType.read_first_fault`), and a physical side with a fault of its own is refused in the same
words whatever the logical side is.
-/

namespace ColumnCast

namespace Descriptor

open Text (AllBlank Trimmed)
open Numeral (Writes)

variable {α β : Type} {cs part left right raw : List Char} {name : String}
  {params : Option (List Char)} {kind : SpecFaultKind}

/-! ### Faults of a kind -/

/-- A reading is **refused** for a fault of the kind. -/
def Refused (x : Except SpecFault α) (kind : SpecFaultKind) : Prop :=
  ∃ fault, x = .error fault ∧ fault.kind = kind

section Refused

variable {x : Except SpecFault α} {f : α → Except SpecFault β} {fault : SpecFault}

private theorem refused_error_iff :
    Refused (.error fault : Except SpecFault α) kind ↔ fault.kind = kind := by
  constructor
  · rintro ⟨_, heq, hkind⟩
    rwa [Except.error.inj heq]
  · intro hkind
    exact ⟨fault, rfl, hkind⟩

private theorem not_refused_ok (a : α) : ¬Refused (.ok a) kind :=
  fun ⟨_, heq, _⟩ => nomatch heq

private theorem Refused.unique {kind' : SpecFaultKind} (h : Refused x kind) (h' : Refused x kind') :
    kind = kind' := by
  obtain ⟨fault, rfl, rfl⟩ := h
  exact refused_error_iff.mp h'

/-- Steps one after the other are refused by the first one that refuses. -/
private theorem refused_bind_iff :
    Refused (x >>= f) kind ↔ Refused x kind ∨ ∃ a, x = .ok a ∧ Refused (f a) kind := by
  cases x with
  | error fault => simp [bind, Except.bind, refused_error_iff]
  | ok a => simp [bind, Except.bind, not_refused_ok]

/-- What is made of a value that was read is refused for nothing. -/
private theorem refused_bind_pure_iff {g : α → β} :
    Refused (x >>= fun a => pure (g a)) kind ↔ Refused x kind := by
  rw [refused_bind_iff, or_iff_left]
  rintro ⟨a, -, h⟩
  exact not_refused_ok (g a) h

private theorem refused_ite_throw_iff {c : Prop} [Decidable c] {g : PUnit → Except SpecFault β}
    {y : Except SpecFault β} :
    Refused (if c then throw fault >>= g else y) kind ↔
      (c ∧ fault.kind = kind) ∨ (¬c ∧ Refused y kind) := by
  split_ifs with hc
  · have hthrow : (throw fault >>= g : Except SpecFault β) = .error fault := rfl
    simp [hthrow, refused_error_iff, hc]
  · simp [hc]

/-- What is refused for nothing is read. -/
private theorem exists_ok_of_not_refused (h : ∀ kind, ¬Refused x kind) : ∃ a, x = .ok a := by
  cases x with
  | error fault => exact absurd ⟨fault, rfl, rfl⟩ (h fault.kind)
  | ok a => exact ⟨a, rfl⟩

end Refused

/-! ### Faults of one side -/

/-- A side of a type text is **shaped** as a name with what stands in parentheses behind it, if
there are any. Its letters are taken in upper case. -/
def Shaped (part : List Char) (name : String) (params : Option (List Char)) : Prop :=
  IsName name.toList ∧ ∃ rest, Text.upper part = name.toList ++ rest ∧ Behind params rest

/-- A numeral of an integer of 64 bits. -/
def WritesWord (raw : List Char) (n : ℤ) : Prop :=
  Writes raw n ∧ -2 ^ 63 ≤ n ∧ n < 2 ^ 63

/-- A parameter and the least value that it can have. -/
structure Item where
  text : List Char
  least : ℤ

/-- The faults of parameters: all of them have to be numerals before any has to be in range. -/
inductive ItemsFault (items : List Item) : SpecFaultKind → Prop
  | numeral {item : Item} (hitem : item ∈ items) (h : ∀ n, ¬WritesWord item.text n) :
      ItemsFault items .format
  | range {item : Item} {n : ℤ} (hall : ∀ item ∈ items, ∃ n, WritesWord item.text n)
      (hitem : item ∈ items) (h : WritesWord item.text n)
      (hrange : ¬(item.least ≤ n ∧ n < 2 ^ 32)) : ItemsFault items .constraint

/-- What is asked of one side of a type text: which names there are, which one is called with
parameters, and how these are made up. -/
structure SideRules where
  Known : String → Prop
  called : String
  Items : List Char → List Item → Prop

/-- The physical side: a length is one numeral, and not zero. -/
def physicalRules : SideRules where
  Known name := ∃ carrier : Carrier, carrier.name = name
  called := Carrier.fixedLenByteArray.name
  Items raw items := items = [⟨raw, 1⟩]

/-- The logical side: a precision, which is not zero, and a scale with a comma between them. -/
def logicalRules : SideRules where
  Known name := ∃ logical : LogicalName, logical.text = name
  called := LogicalName.decimal.text
  Items raw items := ∃ x y, raw = x ++ ',' :: y ∧ ',' ∉ x ∧ ',' ∉ y ∧
    items = [⟨Text.trim x, 1⟩, ⟨Text.trim y, 0⟩]

/-- The faults of one side, in the order in which they count. -/
inductive SideFault (rules : SideRules) (part : List Char) : SpecFaultKind → Prop
  | shape (h : ∀ name params, ¬Shaped part name params) : SideFault rules part .format
  | unknown {name : String} {params : Option (List Char)} (h : Shaped part name params)
      (hname : ¬rules.Known name) : SideFault rules part .unknownType
  | missing (h : Shaped part rules.called none) : SideFault rules part .constraint
  | forbidden {name : String} {raw : List Char} (h : Shaped part name (some raw))
      (hname : rules.Known name) (hcalled : name ≠ rules.called) : SideFault rules part .constraint
  | count {raw : List Char} (h : Shaped part rules.called (some raw))
      (hitems : ∀ items, ¬rules.Items raw items) : SideFault rules part .constraint
  | items {raw : List Char} {items : List Item} {kind : SpecFaultKind}
      (h : Shaped part rules.called (some raw)) (hitems : rules.Items raw items)
      (hfault : ItemsFault items kind) : SideFault rules part kind

/-! ### Faults of a text -/

/-- The **sides** of a text: what comes before its first colon and what comes behind it, without
the blanks around them. -/
def Sides (cs left right : List Char) : Prop :=
  ∃ before after, cs = before ++ ':' :: after ∧ ':' ∉ before ∧
    Text.trim before = left ∧ Text.trim after = right

/-- The faults of a type text, in the order in which they count. -/
inductive FirstFault (cs : List Char) : SpecFaultKind → Prop
  | blank (h : AllBlank cs) : FirstFault cs .format
  | colon (h : ':' ∉ cs) : FirstFault cs .format
  | blankSide {left right : List Char} (h : Sides cs left right) (hside : left = [] ∨ right = []) :
      FirstFault cs .format
  | physical {left right : List Char} {kind : SpecFaultKind} (h : Sides cs left right)
      (hleft : left ≠ []) (hright : right ≠ []) (hfault : SideFault physicalRules left kind) :
      FirstFault cs kind
  | logical {left right : List Char} {kind : SpecFaultKind} (h : Sides cs left right)
      (hleft : left ≠ []) (hright : right ≠ [])
      (hphysical : ∀ kind, ¬SideFault physicalRules left kind)
      (hfault : SideFault logicalRules right kind) : FirstFault cs kind
  | pairing {t : ColumnType} (h : Describes t cs) (ht : ¬t.Usable) : FirstFault cs .constraint

/-! ### Steps of the reader -/

private theorem token_eq_ok_iff_shaped :
    token part = .ok ⟨name, params⟩ ↔ Shaped part name params := by
  rw [token_eq_ok_iff, token?_eq_some_iff]
  rfl

private theorem refused_token_iff :
    Refused (token part) kind ↔ kind = .format ∧ ∀ name params, ¬Shaped part name params := by
  simp only [← token_eq_ok_iff_shaped]
  unfold token
  split
  · next t _ =>
    refine iff_of_false (not_refused_ok t) ?_
    rintro ⟨-, hnone⟩
    exact hnone t.name t.parameters? rfl
  · simp [refused_error_iff, SpecFault.kind, eq_comm]

private theorem numeral_eq_ok_iff_writesWord {parameter : TypeParameter} {n : ℤ} :
    numeral parameter raw = .ok n ↔ WritesWord raw n :=
  numeral_eq_ok_iff

private theorem refused_numeral_iff {parameter : TypeParameter} :
    Refused (numeral parameter raw) kind ↔ kind = .format ∧ ∀ n, ¬WritesWord raw n := by
  have hok (n : ℤ) : numeral parameter raw = .ok n ↔ WritesWord raw n :=
    numeral_eq_ok_iff_writesWord
  simp only [← hok]
  unfold numeral
  split
  · simp [not_refused_ok]
  · simp [refused_error_iff, SpecFault.kind, eq_comm]

private theorem refused_word_iff {parameter : TypeParameter} {n : ℤ} :
    Refused (word parameter n) kind ↔ kind = .constraint ∧ 2 ^ 32 ≤ n := by
  have hsize : UInt32.size = 2 ^ 32 := rfl
  unfold word
  split_ifs with h
  · refine iff_of_false (not_refused_ok _) ?_
    rintro ⟨-, hn⟩
    omega
  · rw [refused_error_iff]
    constructor
    · rintro rfl
      exact ⟨rfl, by omega⟩
    · rintro ⟨rfl, -⟩
      rfl

/-- A length is refused as the one parameter that it is. -/
private theorem refused_length_iff : Refused (length raw) kind ↔ ItemsFault [⟨raw, 1⟩] kind := by
  unfold length
  simp only [refused_bind_iff, refused_numeral_iff, numeral_eq_ok_iff_writesWord,
    refused_ite_throw_iff, refused_word_iff]
  constructor
  · rintro (⟨rfl, hnone⟩ | ⟨n, hn, ⟨hle, rfl⟩ | ⟨hpos, rfl, hbig⟩⟩)
    · exact .numeral List.mem_cons_self hnone
    · exact .range (by simpa using ⟨n, hn⟩) List.mem_cons_self hn (by dsimp only; omega)
    · exact .range (by simpa using ⟨n, hn⟩) List.mem_cons_self hn (by dsimp only; omega)
  · intro h
    cases h with
    | numeral hitem h =>
      obtain rfl := List.mem_singleton.mp hitem
      exact .inl ⟨rfl, h⟩
    | @range _ n hall hitem h hrange =>
      obtain rfl := List.mem_singleton.mp hitem
      refine .inr ⟨n, h, ?_⟩
      by_cases hle : n ≤ 0
      · exact .inl ⟨hle, rfl⟩
      · exact .inr ⟨hle, rfl, by dsimp only at hrange; omega⟩

private theorem WritesWord.unique {n k : ℤ} (hn : WritesWord raw n) (hk : WritesWord raw k) :
    n = k :=
  hn.1.unique hk.1

/-- Two parameters are at fault when one of them is no numeral or, if both are, one of them is
out of range. -/
private theorem itemsFault_pair_iff {a b : Item} :
    ItemsFault [a, b] kind ↔
      (kind = .format ∧ ∀ n, ¬WritesWord a.text n) ∨
        ∃ p, WritesWord a.text p ∧
          ((kind = .format ∧ ∀ n, ¬WritesWord b.text n) ∨
            ∃ s, WritesWord b.text s ∧ kind = .constraint ∧
              ¬((a.least ≤ p ∧ p < 2 ^ 32) ∧ b.least ≤ s ∧ s < 2 ^ 32)) := by
  constructor
  · intro h
    cases h with
    | numeral hitem h =>
      by_cases ha : ∃ p, WritesWord a.text p
      · obtain ⟨p, ha⟩ := ha
        obtain rfl | hitem := List.mem_cons.mp hitem
        · exact absurd ha (h p)
        · obtain rfl := List.mem_singleton.mp hitem
          exact .inr ⟨p, ha, .inl ⟨rfl, h⟩⟩
      · exact .inl ⟨rfl, not_exists.mp ha⟩
    | @range item n hall hitem h hrange =>
      obtain ⟨⟨p, ha⟩, s, hb⟩ : (∃ p, WritesWord a.text p) ∧ ∃ s, WritesWord b.text s := by
        simpa using hall
      refine .inr ⟨p, ha, .inr ⟨s, hb, rfl, fun hboth => hrange ?_⟩⟩
      obtain rfl | hitem := List.mem_cons.mp hitem
      · exact h.unique ha ▸ hboth.1
      · obtain rfl := List.mem_singleton.mp hitem
        exact h.unique hb ▸ hboth.2
  · rintro (⟨rfl, ha⟩ | ⟨p, ha, ⟨rfl, hb⟩ | ⟨s, hb, rfl, hboth⟩⟩)
    · exact .numeral (by simp) ha
    · exact .numeral (List.mem_cons_of_mem a List.mem_cons_self) hb
    · have hall : ∀ item ∈ [a, b], ∃ n, WritesWord item.text n := by
        simpa using ⟨⟨p, ha⟩, s, hb⟩
      rcases not_and_or.mp hboth with hrange | hrange
      · exact .range hall List.mem_cons_self ha hrange
      · exact .range hall (List.mem_cons_of_mem a List.mem_cons_self) hb hrange

private theorem refused_words_iff {p s : ℤ} :
    Refused (do return (⟨← word .precision p, ← word .scale s⟩ : DecimalType)) kind ↔
      kind = .constraint ∧ (2 ^ 32 ≤ p ∨ 2 ^ 32 ≤ s) := by
  simp only [refused_bind_iff, refused_word_iff, word_eq_ok_iff]
  constructor
  · rintro (⟨rfl, hp⟩ | ⟨m, -, ⟨rfl, hs⟩ | ⟨n, -, h⟩⟩)
    · exact ⟨rfl, .inl hp⟩
    · exact ⟨rfl, .inr hs⟩
    · exact absurd h (not_refused_ok _)
  · rintro ⟨rfl, h⟩
    by_cases hp : 2 ^ 32 ≤ p
    · exact .inl ⟨rfl, hp⟩
    -- a precision that fits is read, so that the scale is judged
    · have hm : p.toNat < UInt32.size := by
        change p.toNat < 2 ^ 32
        omega
      exact .inr ⟨UInt32.ofNat p.toNat, (UInt32.toNat_ofNat_of_lt' hm).symm,
        .inl ⟨rfl, h.resolve_left hp⟩⟩

private theorem map_trim_splitAll_eq_pair_iff {x y : List Char} :
    (Text.splitAll ',' raw).map Text.trim = [x, y] ↔ logicalRules.Items raw [⟨x, 1⟩, ⟨y, 0⟩] := by
  constructor
  · intro h
    obtain ⟨left, pieces, hsplit, rfl, hpieces⟩ := List.map_eq_cons_iff.mp h
    obtain ⟨right, rest, rfl, rfl, hrest⟩ := List.map_eq_cons_iff.mp hpieces
    obtain rfl := List.map_eq_nil_iff.mp hrest
    obtain ⟨hraw, hleft, hright⟩ := Text.splitAll_eq_pair_iff.mp hsplit
    exact ⟨left, right, hraw, hleft, hright, rfl⟩
  · rintro ⟨left, right, hraw, hleft, hright, hitems⟩
    obtain ⟨rfl, rfl⟩ : x = Text.trim left ∧ y = Text.trim right := by simpa using hitems
    rw [Text.splitAll_eq_pair_iff.mpr ⟨hraw, hleft, hright⟩]
    rfl

/-- A decimal type is refused when it does not have two parameters, or for these. -/
private theorem refused_decimalType_iff :
    Refused (decimalType raw) kind ↔
      (kind = .constraint ∧ ∀ items, ¬logicalRules.Items raw items) ∨
        ∃ items, logicalRules.Items raw items ∧ ItemsFault items kind := by
  have hpair {items : List Item} (h : logicalRules.Items raw items) :
      ∃ x y, items = [⟨x, 1⟩, ⟨y, 0⟩] := by
    obtain ⟨x, y, -, -, -, hitems⟩ := h
    exact ⟨_, _, hitems⟩
  unfold decimalType
  split
  · next x y hpieces =>
    have hitems := map_trim_splitAll_eq_pair_iff.mp hpieces
    have hfault : (∃ items, logicalRules.Items raw items ∧ ItemsFault items kind) ↔
        ItemsFault [⟨x, 1⟩, ⟨y, 0⟩] kind := by
      constructor
      · rintro ⟨items, h, hfault⟩
        obtain ⟨x', y', rfl⟩ := hpair h
        obtain ⟨rfl, rfl⟩ : x' = x ∧ y' = y := by
          simpa using (map_trim_splitAll_eq_pair_iff.mpr h).symm.trans hpieces
        exact hfault
      · exact fun hfault => ⟨_, hitems, hfault⟩
    rw [or_iff_right fun h => h.2 _ hitems, hfault, itemsFault_pair_iff]
    simp only [↓refused_words_iff, refused_bind_iff, refused_numeral_iff,
      numeral_eq_ok_iff_writesWord, refused_ite_throw_iff]
    -- both numerals are there; what is left asks for their ranges, one bound after the other
    refine or_congr_right (exists_congr fun p => and_congr_right fun _ => or_congr_right
      (exists_congr fun s => and_congr_right fun _ => ?_))
    constructor
    · rintro (⟨hp, rfl⟩ | ⟨hp, ⟨hs, rfl⟩ | ⟨hs, rfl, hbig⟩⟩)
      · exact ⟨rfl, by omega⟩
      · exact ⟨rfl, by omega⟩
      · exact ⟨rfl, by omega⟩
    · rintro ⟨rfl, hrange⟩
      by_cases hp : p ≤ 0
      · exact .inl ⟨hp, rfl⟩
      · by_cases hs : s < 0
        · exact .inr ⟨hp, .inl ⟨hs, rfl⟩⟩
        · exact .inr ⟨hp, .inr ⟨hs, rfl, by omega⟩⟩
  · next hpieces =>
    have hnone : ∀ items, ¬logicalRules.Items raw items := by
      intro items h
      obtain ⟨x, y, rfl⟩ := hpair h
      exact hpieces x y (map_trim_splitAll_eq_pair_iff.mpr h)
    rw [refused_error_iff, or_iff_left fun ⟨items, h, _⟩ => hnone items h, and_iff_left hnone]
    exact eq_comm

/-! ### One side -/

/-- What goes on from the token of a side **judges** by the rules when it refuses, among known
names and among parameters, what the rules call a fault. -/
structure SideRules.Judges (rules : SideRules) (next : Token → Except SpecFault α) : Prop where
  unknown {name : String} {params : Option (List Char)} {kind : SpecFaultKind} :
    ¬rules.Known name → (Refused (next ⟨name, params⟩) kind ↔ kind = .unknownType)
  bare {name : String} {kind : SpecFaultKind} :
    rules.Known name → name ≠ rules.called → ¬Refused (next ⟨name, none⟩) kind
  missing {kind : SpecFaultKind} :
    Refused (next ⟨rules.called, none⟩) kind ↔ kind = .constraint
  forbidden {name : String} {raw : List Char} {kind : SpecFaultKind} :
    rules.Known name → name ≠ rules.called →
      (Refused (next ⟨name, some raw⟩) kind ↔ kind = .constraint)
  parameters {raw : List Char} {kind : SpecFaultKind} :
    Refused (next ⟨rules.called, some raw⟩) kind ↔
      (kind = .constraint ∧ ∀ items, ¬rules.Items raw items) ∨
        ∃ items, rules.Items raw items ∧ ItemsFault items kind

/-- **One side is refused for its first fault.** -/
theorem SideRules.Judges.refused_iff {rules : SideRules} {next : Token → Except SpecFault α}
    (hnext : rules.Judges next) :
    Refused (token part >>= next) kind ↔ SideFault rules part kind := by
  rw [refused_bind_iff, refused_token_iff]
  constructor
  · rintro (⟨rfl, hnone⟩ | ⟨⟨name, params⟩, htoken, h⟩)
    · exact .shape hnone
    rw [token_eq_ok_iff_shaped] at htoken
    -- the name settles which rule is next, and the parentheses which rule is broken
    by_cases hknown : rules.Known name
    · by_cases hcalled : name = rules.called
      · subst hcalled
        cases params with
        | none =>
          obtain rfl := hnext.missing.mp h
          exact .missing htoken
        | some raw =>
          obtain ⟨rfl, hnone⟩ | ⟨items, hitems, hfault⟩ := hnext.parameters.mp h
          · exact .count htoken hnone
          · exact .items htoken hitems hfault
      · cases params with
        | none => exact absurd h (hnext.bare hknown hcalled)
        | some raw =>
          obtain rfl := (hnext.forbidden hknown hcalled).mp h
          exact .forbidden htoken hknown hcalled
    · obtain rfl := (hnext.unknown hknown).mp h
      exact .unknown htoken hknown
  · intro h
    -- every fault but the first one comes behind a token
    have hbehind {name : String} {params : Option (List Char)} (hshaped : Shaped part name params)
        (h : Refused (next ⟨name, params⟩) kind) :
        (kind = .format ∧ ∀ name params, ¬Shaped part name params) ∨
          ∃ t, token part = .ok t ∧ Refused (next t) kind :=
      .inr ⟨_, token_eq_ok_iff_shaped.mpr hshaped, h⟩
    cases h with
    | shape hnone => exact .inl ⟨rfl, hnone⟩
    | unknown hshaped hname => exact hbehind hshaped ((hnext.unknown hname).mpr rfl)
    | missing hshaped => exact hbehind hshaped (hnext.missing.mpr rfl)
    | forbidden hshaped hname hcalled =>
      exact hbehind hshaped ((hnext.forbidden hname hcalled).mpr rfl)
    | count hshaped hnone => exact hbehind hshaped (hnext.parameters.mpr (.inl ⟨rfl, hnone⟩))
    | items hshaped hitems hfault =>
      exact hbehind hshaped (hnext.parameters.mpr (.inr ⟨_, hitems, hfault⟩))

private theorem refused_physical_iff :
    Refused (physical part) kind ↔ SideFault physicalRules part kind := by
  unfold physical
  refine SideRules.Judges.refused_iff ?_
  exact {
    unknown := by
      intro name params kind hname
      simp only [Carrier.ofName?_eq_none_iff.mpr hname]
      exact refused_error_iff.trans eq_comm
    bare := by
      rintro _ kind ⟨carrier, rfl⟩ hcalled
      simp only [Carrier.ofName?_eq_some_iff.mpr rfl]
      cases carrier with
      | fixedLenByteArray => exact absurd rfl hcalled
      | _ => exact not_refused_ok _
    missing := refused_error_iff.trans eq_comm
    forbidden := by
      rintro _ raw kind ⟨carrier, rfl⟩ hcalled
      simp only [Carrier.ofName?_eq_some_iff.mpr rfl]
      cases carrier with
      | fixedLenByteArray => exact absurd rfl hcalled
      | _ => exact refused_error_iff.trans eq_comm
    parameters := by
      intro raw kind
      have hone : (∃ items, physicalRules.Items raw items ∧ ItemsFault items kind) ↔
          ItemsFault [⟨raw, 1⟩] kind :=
        exists_eq_left
      rw [or_iff_right fun h => h.2 _ rfl, hone, ← refused_length_iff]
      exact refused_bind_pure_iff }

private theorem refused_logical_iff :
    Refused (logical part) kind ↔ SideFault logicalRules part kind := by
  unfold logical
  refine SideRules.Judges.refused_iff ?_
  exact {
    unknown := by
      intro name params kind hname
      simp only [LogicalName.ofText?_eq_none_iff.mpr hname]
      exact refused_error_iff.trans eq_comm
    bare := by
      rintro _ kind ⟨logical, rfl⟩ hcalled
      simp only [LogicalName.ofText?_eq_some_iff.mpr rfl]
      cases logical with
      | decimal => exact absurd rfl hcalled
      | _ => exact not_refused_ok _
    missing := refused_error_iff.trans eq_comm
    forbidden := by
      rintro _ raw kind ⟨logical, rfl⟩ hcalled
      simp only [LogicalName.ofText?_eq_some_iff.mpr rfl]
      cases logical with
      | decimal => exact absurd rfl hcalled
      | _ => exact refused_error_iff.trans eq_comm
    parameters := by
      intro raw kind
      rw [← refused_decimalType_iff]
      exact refused_bind_pure_iff }

/-! ### Both sides -/

private theorem refused_pair_of_notMem (hcolon : ':' ∉ cs) : Refused (pair cs) .format := by
  unfold pair
  split_ifs
  · exact ⟨_, rfl, rfl⟩
  · rw [Text.splitFirst?_eq_none_iff.mpr hcolon]
    exact ⟨_, rfl, rfl⟩

private theorem pair_of_left_blank (hcolon : ':' ∉ left) (hleft : Text.trim left = []) :
    pair (left ++ ':' :: right) = .error .missingPhysical := by
  rw [pair_append_colon hcolon, if_pos hleft]
  rfl

private theorem refused_pair_of_right_blank (hcolon : ':' ∉ left) (hright : Text.trim right = []) :
    Refused (pair (left ++ ':' :: right)) .format := by
  rw [pair_append_colon hcolon, refused_ite_throw_iff, if_pos hright]
  by_cases hleft : Text.trim left = []
  · exact .inl ⟨hleft, rfl⟩
  · exact .inr ⟨hleft, _, rfl, rfl⟩

/-- Two sides that are not blank are judged one after the other. -/
private theorem refused_pair_iff (hcolon : ':' ∉ left) (hleft : Text.trim left ≠ [])
    (hright : Text.trim right ≠ []) :
    Refused (pair (left ++ ':' :: right)) kind ↔
      SideFault physicalRules (Text.trim left) kind ∨
        (∀ kind, ¬SideFault physicalRules (Text.trim left) kind) ∧
          SideFault logicalRules (Text.trim right) kind := by
  rw [pair_of_sides hcolon hleft hright, refused_bind_iff]
  simp only [refused_bind_pure_iff, refused_physical_iff, refused_logical_iff,
    exists_and_right]
  refine or_congr_right (and_congr_left fun _ => ?_)
  constructor
  · rintro ⟨p, hp⟩ kind hfault
    rw [← refused_physical_iff, hp] at hfault
    exact not_refused_ok p hfault
  · intro h
    exact exists_ok_of_not_refused fun kind => refused_physical_iff.not.mpr (h kind)

/-- **What comes behind the colon cannot change the verdict** on a physical side that has a fault
of its own. -/
theorem exists_fault_of_physical (hcolon : ':' ∉ left)
    (h : SideFault physicalRules (Text.trim left) kind) :
    ∃ fault, fault.kind = kind ∧
      ∀ right, ¬AllBlank right → pair (left ++ ':' :: right) = .error fault := by
  obtain ⟨fault, hphysical, hkind⟩ := refused_physical_iff.mpr h
  by_cases hleft : Text.trim left = []
  · -- nothing at all is no name, which is a fault of the same kind as a blank side
    rw [hleft] at hphysical
    obtain rfl := Except.error.inj hphysical
    exact ⟨.missingPhysical, hkind, fun right _ => pair_of_left_blank hcolon hleft⟩
  · refine ⟨fault, hkind, fun right hright => ?_⟩
    rw [pair_of_sides hcolon hleft (Text.trim_eq_nil_iff.not.mpr hright), hphysical]
    rfl

end Descriptor

namespace TargetType

open Descriptor (Refused FirstFault)

variable {t : ColumnType} {text : String} {kind : SpecFaultKind}

private theorem refused_ofColumnType_iff :
    Refused (ofColumnType t) kind ↔ kind = .constraint ∧ ¬t.Usable := by
  by_cases husable : t.Usable
  · have hok : ofColumnType t = .ok ⟨t, ColumnType.fault?_eq_none_iff.mpr husable⟩ :=
      ofColumnType_eq_ok_iff.mpr rfl
    rw [hok]
    exact iff_of_false (Descriptor.not_refused_ok _) fun h => h.2 husable
  · obtain ⟨fault, hfault, hkind⟩ := ColumnType.exists_fault husable
    rw [hfault, Descriptor.refused_error_iff, hkind, and_iff_left husable]
    exact eq_comm

/-- **A type text is refused for its first fault.** -/
theorem refused_parse_iff : Refused (parse text) kind ↔ FirstFault text.toList kind := by
  rw [parse, Descriptor.refused_bind_iff]
  constructor
  · rintro (hpair | ⟨t, hpair, ht⟩)
    · by_cases hmem : ':' ∈ text.toList
      -- a colon cuts the text, and the sides are asked for before they are read
      · obtain ⟨left, right, hcs, hcolon⟩ := List.eq_append_cons_of_mem hmem
        have hsides : Descriptor.Sides text.toList (Text.trim left) (Text.trim right) :=
          ⟨left, right, hcs, hcolon, rfl, rfl⟩
        rw [hcs] at hpair
        by_cases hleft : Text.trim left = []
        · rw [Descriptor.pair_of_left_blank hcolon hleft, Descriptor.refused_error_iff] at hpair
          obtain rfl := hpair
          exact .blankSide hsides (.inl hleft)
        by_cases hright : Text.trim right = []
        · obtain rfl := hpair.unique (Descriptor.refused_pair_of_right_blank hcolon hright)
          exact .blankSide hsides (.inr hright)
        rcases (Descriptor.refused_pair_iff hcolon hleft hright).mp hpair with h | ⟨hsound, h⟩
        · exact .physical hsides hleft hright h
        · exact .logical hsides hleft hright hsound h
      · obtain rfl := hpair.unique (Descriptor.refused_pair_of_notMem hmem)
        exact .colon hmem
    · obtain ⟨rfl, hnot⟩ := refused_ofColumnType_iff.mp ht
      exact .pairing (Descriptor.pair_eq_ok_iff.mp hpair).1 hnot
  · intro h
    cases h with
    | blank h =>
      have hcolon : ':' ∉ text.toList := h.notMem (by decide)
      exact .inl (Descriptor.refused_pair_of_notMem hcolon)
    | colon h => exact .inl (Descriptor.refused_pair_of_notMem h)
    | blankSide h hside =>
      obtain ⟨left, right, hcs, hcolon, rfl, rfl⟩ := h
      rw [hcs]
      rcases hside with hleft | hright
      · rw [Descriptor.pair_of_left_blank hcolon hleft]
        exact .inl ⟨_, rfl, rfl⟩
      · exact .inl (Descriptor.refused_pair_of_right_blank hcolon hright)
    | physical h hleft hright hfault =>
      obtain ⟨left, right, hcs, hcolon, rfl, rfl⟩ := h
      rw [hcs]
      exact .inl ((Descriptor.refused_pair_iff hcolon hleft hright).mpr (.inl hfault))
    | logical h hleft hright hphysical hfault =>
      obtain ⟨left, right, hcs, hcolon, rfl, rfl⟩ := h
      rw [hcs]
      exact .inl ((Descriptor.refused_pair_iff hcolon hleft hright).mpr
        (.inr ⟨hphysical, hfault⟩))
    | pairing h ht =>
      rcases Descriptor.pair_of_describes h with hpair | ⟨-, hpair⟩
      · exact .inr ⟨_, hpair, refused_ofColumnType_iff.mpr ⟨rfl, ht⟩⟩
      · exact .inl hpair

end TargetType

/-- **A text has one first fault**, as far as kinds go: what counts before a fault excludes it. -/
theorem Descriptor.FirstFault.unique {cs : List Char} {kind kind' : SpecFaultKind}
    (h : FirstFault cs kind) (h' : FirstFault cs kind') : kind = kind' := by
  have hparse {kind : SpecFaultKind} :
      Refused (TargetType.parse (String.ofList cs)) kind ↔ FirstFault cs kind := by
    rw [TargetType.refused_parse_iff, String.toList_ofList]
  exact (hparse.mpr h).unique (hparse.mpr h')

namespace TargetType

open Descriptor (FirstFault SideFault Shaped physicalRules)
open Text (AllBlank)

variable {text : String}

private theorem read_eq_error_iff {error : ConversionError} :
    read text = .error error ↔
      ∃ fault, parse text = .error fault ∧ .specification text fault = error := by
  unfold read
  split
  · next ht => simp [ht]
  · next hfault => simp [hfault]

/-- **Refused type texts.** The error for a type text that is refused has the text in it, and is
of the kind of the first fault; a text with a fault is refused. A physical side with a fault of
its own is refused for this fault, so for the same reason, whatever is not blank behind the
colon. -/
theorem read_first_fault :
    (∀ text error, read text = .error error →
      ∃ fault, error = .specification text fault ∧ error.kind = fault.kind.errorKind ∧
        FirstFault text.toList fault.kind) ∧
    (∀ text kind, FirstFault text.toList kind →
      ∃ fault, fault.kind = kind ∧ read text = .error (.specification text fault)) ∧
    ∀ left kind, ':' ∉ left → SideFault physicalRules (Text.trim left) kind →
      ∃ fault, fault.kind = kind ∧ ∀ right, ¬AllBlank right →
        read (String.ofList (left ++ ':' :: right)) =
          .error (.specification (String.ofList (left ++ ':' :: right)) fault) := by
  refine ⟨fun text error hread => ?_, fun text kind h => ?_, fun left kind hcolon h => ?_⟩
  · obtain ⟨fault, hparse, rfl⟩ := read_eq_error_iff.mp hread
    exact ⟨fault, rfl, rfl, refused_parse_iff.mp ⟨fault, hparse, rfl⟩⟩
  · obtain ⟨fault, hparse, hkind⟩ := refused_parse_iff.mpr h
    exact ⟨fault, hkind, read_eq_error_iff.mpr ⟨fault, hparse, rfl⟩⟩
  · obtain ⟨fault, hkind, hpair⟩ := Descriptor.exists_fault_of_physical hcolon h
    refine ⟨fault, hkind, fun right hright => read_eq_error_iff.mpr ⟨fault, ?_, rfl⟩⟩
    rw [parse, String.toList_ofList, hpair right hright]
    rfl

/-- A name that does not exist counts before a token that is cut short behind the colon. -/
theorem read_first_fault_unknown_name :
    (∃ fault, fault.kind = .unknownType ∧
      read "INT33:DECIMAL(" = .error (.specification "INT33:DECIMAL(" fault) ∧
      read "INT33:NONE" = .error (.specification "INT33:NONE" fault)) ∧
    FirstFault "INT33:DECIMAL(".toList .unknownType ∧
    ∃ fault, fault.kind = .format ∧ read "INT33" = .error (.specification "INT33" fault) := by
  have hshaped : Shaped "INT33".toList "INT33" none :=
    ⟨⟨by decide, List.all_eq_true.mp (by decide)⟩, [], rfl, .nothing nofun⟩
  have hname : ¬physicalRules.Known "INT33" := by
    rintro ⟨carrier, h⟩
    cases carrier <;> exact absurd h (by decide)
  have hnotBlank {c : Char} {rest : List Char} (hc : Text.isBlank c = false) :
      ¬AllBlank (c :: rest) :=
    fun h => h.notMem hc List.mem_cons_self
  obtain ⟨fault, hkind, hread⟩ := read_first_fault.2.2 "INT33".toList .unknownType (by decide)
    (.unknown hshaped hname)
  have hdecimal : read "INT33:DECIMAL(" = .error (.specification "INT33:DECIMAL(" fault) :=
    hread "DECIMAL(".toList (hnotBlank (by decide))
  refine ⟨⟨fault, hkind, hdecimal, hread "NONE".toList (hnotBlank (by decide))⟩, ?_,
    read_first_fault.2.1 "INT33" .format (.colon (by decide))⟩
  obtain ⟨fault', heq, -, hfirst⟩ := read_first_fault.1 _ _ hdecimal
  obtain rfl : fault = fault' := by simpa using heq
  exact hkind ▸ hfirst

end TargetType

end ColumnCast
