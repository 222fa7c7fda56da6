import ColumnCast.Proofs.Converter.Build

/-!
# The targets of a source type

The targets that are listed for a source type are keys, and a key says nothing about lengths,
precisions and scales. Every listed key is still that of a target with a converter from the
source: there is a target of this key with room for any scale (`modestTargets`), so that
validation has nothing to object to. Conversely a target with a converter is listed
(`Converter.allowedTargets_exact`).
-/

namespace ColumnCast

variable {source : ColumnType} {key : TypeKey}

/-! ### The list of keys -/

namespace TypeKey

/-- A pair of keys as they are shown to the user. -/
def texts (pair : TypeKey × TypeKey) : String × String :=
  (pair.1.text, pair.2.text)

end TypeKey

private theorem mem_allowedTargets_iff :
    key ∈ allowedTargets source ↔ isAllowed source.key key = true := by
  simp only [allowedTargets, isAllowed, List.mem_map, List.mem_filter, decide_eq_true_eq]
  constructor
  · rintro ⟨pair, ⟨hpair, hsource⟩, rfl⟩
    rwa [← hsource]
  · intro h
    exact ⟨_, ⟨h, rfl⟩, rfl⟩

/-- **The order of the targets.** Put behind the source, the targets are the pairs of the
allow-list that begin with the source, in the order of the list. -/
theorem map_texts_allowedTargets (source : ColumnType) :
    (allowedTargets source).map (fun key => (source.key.text, key.text)) =
      (allowedPairs.map TypeKey.texts).filter fun pair => pair.1 = source.key.text := by
  -- keys that column types have are told apart by their texts
  have hsame : ∀ pair ∈ allowedPairs,
      ((fun pair => decide (pair.1 = source.key.text)) ∘ TypeKey.texts) pair =
        decide (pair.1 = source.key) :=
    fun pair hpair => decide_eq_decide.mpr <| text_inj_of_mem_columnKeys
      (mem_columnKeys_of_mem_allowedPairs hpair).1 (key_mem_columnKeys source)
  rw [allowedTargets, List.map_map, List.filter_map, List.filter_congr hsame]
  refine List.map_congr_left fun pair hpair => ?_
  have hsource : pair.1 = source.key := by simpa using (List.mem_filter.mp hpair).2
  rw [TypeKey.texts, hsource]
  rfl

/-- No key is listed twice. -/
private theorem nodup_texts_allowedTargets (source : ColumnType) :
    ((allowedTargets source).map TypeKey.text).Nodup := by
  have hnodup : (allowedPairs.map TypeKey.texts).Nodup := by decide +kernel
  refine List.Nodup.of_map (fun text => (source.key.text, text)) ?_
  rw [List.map_map]
  exact map_texts_allowedTargets source ▸ hnodup.filter _

/-! ### A target for every key -/

/-- A target for each key of the allow-list that asks for as little as there is: one byte, and
decimals of one digit, which stands before the point. -/
def modestTargets : List TargetType :=
  [⟨⟨.int32, .bare⟩, rfl⟩, ⟨⟨.int64, .bare⟩, rfl⟩, ⟨⟨.float, .bare⟩, rfl⟩,
    ⟨⟨.double, .bare⟩, rfl⟩, ⟨⟨.int64, .timestamp .nanos⟩, rfl⟩, ⟨⟨.byteArray, .bare⟩, rfl⟩,
    ⟨⟨.byteArray, .string⟩, rfl⟩, ⟨⟨.fixedLenByteArray 1, .bare⟩, rfl⟩,
    ⟨⟨.int32, .decimal ⟨1, 0⟩⟩, rfl⟩, ⟨⟨.int64, .decimal ⟨1, 0⟩⟩, rfl⟩,
    ⟨⟨.byteArray, .decimal ⟨1, 0⟩⟩, rfl⟩, ⟨⟨.fixedLenByteArray 1, .decimal ⟨1, 0⟩⟩, by decide⟩]

private theorem exists_modest_target (h : isAllowed source.key key = true) :
    ∃ t ∈ modestTargets, t.key = key := by
  have hlisted : ∀ pair ∈ allowedPairs, ∃ t ∈ modestTargets, t.key = pair.2 := by
    decide
  exact hlisted _ (of_decide_eq_true h)

/-- A scale that does not grow is compatible with any other. -/
private theorem validateScales_of_scale_le {s t : DecimalType} (h : t.scale ≤ s.scale) :
    validateScales s t = .ok () :=
  if_neg fun hrefused => UInt32.not_lt.mpr h hrefused.1

namespace Converter

/-- A modest target is valid for every source that its key is allowed for. -/
private theorem validate_of_mem_modestTargets {t : TargetType} (ht : t ∈ modestTargets)
    (h : isAllowed source.key t.key = true) : validate source t = .ok () := by
  have hscale : ∀ t ∈ modestTargets, ∀ d ∈ t.decimal?, d.scale = 0 := by
    decide
  unfold validate
  rw [if_pos h]
  split
  · next s d hs hd =>
    refine validateScales_of_scale_le ?_
    rw [hscale t ht d hd]
    exact UInt32.zero_le
  · rfl

/-- A key is allowed for a source exactly when some target of this key has a converter. -/
private theorem isAllowed_iff_exists_build :
    isAllowed source.key key = true ↔
      ∃ (t : TargetType) (c : Converter), t.key = key ∧ build source t = .ok c := by
  constructor
  · intro h
    obtain ⟨t, ht, rfl⟩ := exists_modest_target h
    obtain ⟨c, hc⟩ := exists_serves_of_validate (validate_of_mem_modestTargets ht h)
    exact ⟨t, c, rfl, build_iff_serves.mpr hc⟩
  · rintro ⟨t, c, rfl, hbuild⟩
    exact isAllowed_of_validate (validate_of_build hbuild)

/-- **The targets are exact.** The keys that are listed for a source type, valid or not, are those
of the targets that it has a converter to; they follow the order of the allow-list, and none is
listed twice. -/
theorem allowedTargets_exact (source : ColumnType) :
    (∀ text : String, text ∈ (allowedTargets source).map TypeKey.text ↔
      ∃ (t : TargetType) (c : Converter), t.key.text = text ∧ build source t = .ok c) ∧
    ((allowedTargets source).map TypeKey.text).Nodup ∧
    ((allowedTargets source).map fun key => (source.key.text, key.text)).Sublist
      (allowedPairs.map TypeKey.texts) := by
  refine ⟨fun text => ?_, nodup_texts_allowedTargets source, ?_⟩
  · simp only [List.mem_map, mem_allowedTargets_iff, isAllowed_iff_exists_build]
    constructor
    · rintro ⟨key, ⟨t, c, rfl, hbuild⟩, rfl⟩
      exact ⟨t, c, rfl, hbuild⟩
    · rintro ⟨t, c, rfl, hbuild⟩
      exact ⟨_, ⟨t, c, rfl, hbuild⟩, rfl⟩
  · rw [map_texts_allowedTargets]
    exact List.filter_sublist

/-- A decimal of more digits after the point than any type can hold still has all four decimal
targets. -/
example : (allowedTargets ⟨.int32, .decimal ⟨0, 4294967295⟩⟩).map TypeKey.text =
    ["INT32:DECIMAL", "INT64:DECIMAL", "BYTE_ARRAY:DECIMAL", "FIXED_LEN_BYTE_ARRAY:DECIMAL"] := by
  decide

end Converter

end ColumnCast
