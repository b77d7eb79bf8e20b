import KeyedRecords.Proofs.Cache.Expiration
import KeyedRecords.Proofs.Settings.Reading

/-!
Settings of a lookup in a table, written as properties and read back. Each setting has one text, and
the settings that are read from the texts, with any white space around each of them, are those that
were written, for all settings that properties can give at all
(`RowSettings.ofProperties_eq_ok_iff_of_pads`).
-/

namespace KeyedRecords

namespace RowSettings

variable {row : RowSettings} {ps : Properties} {name : String} {text? : Option String} {n : Nat}

/-- The texts of the settings by the names of their properties. Neither the list of all columns nor
an unlimited time to live has one. -/
def texts (row : RowSettings) : List (String × Option String) :=
  [(Properties.tableName, some row.tableName),
    (Properties.valueColumns,
      if row.valueColumns = [] then none else some (",".intercalate row.valueColumns)),
    (Properties.whereClause, some row.whereClause),
    (Properties.keyName, some row.keyName),
    (Properties.cacheSize, some (Text.decimal row.cache.capacity)),
    (Properties.clearOnEnable, some (if row.cache.clearOnEnable then "true" else "false")),
    (Properties.expiration, row.cache.ttl.map fun ttl => Period.millisText ttl.millis)]

def properties (row : RowSettings) : Properties := .ofTexts row.texts

/-- Settings that pass the check and that properties can give: the texts in them are trimmed, the
columns differ, the capacity has at most 64 bits, and the time to live is in whole milliseconds. -/
structure Writable (row : RowSettings) : Prop where
  check : row.check = .ok ()
  nodup_valueColumns : row.valueColumns.Nodup
  bare_whereClause : Text.Bare row.whereClause
  bare_keyName : Text.Bare row.keyName
  capacity_le : row.cache.capacity ≤ Text.maxWord
  wholeMillis : ∀ ttl, row.cache.ttl = some ttl → ∃ n, ttl = .ofMillis n

theorem exists_ofMillis_of_ttlOf {ttl : Span} (h : ttlOf ps = .ok (some ttl)) :
    ∃ n, ttl = .ofMillis n := by
  unfold ttlOf at h
  split at h
  · cases h
  · next text htext =>
    unfold Period.parse at h
    cases hspan : Period.span? text with
    | none => simp [hspan, Except.map] at h
    | some d =>
      simp only [hspan, Except.map, Except.ok.injEq, Option.some.injEq] at h
      obtain ⟨total, -, rfl⟩ := Period.span?_eq_some_iff.1 hspan
      exact ⟨total, h.symm⟩

theorem nodup_names (row : RowSettings) : (row.texts.map (·.1)).Nodup := by
  change [Properties.tableName, Properties.valueColumns, Properties.whereClause,
    Properties.keyName, Properties.cacheSize, Properties.clearOnEnable,
    Properties.expiration].Nodup
  decide +kernel

namespace Writable

theorem millis_le (h : row.Writable) (httl : row.cache.ttl = some (.ofMillis n)) :
    n ≤ Text.maxWord := by
  have hcheck := CacheSettings.check_eq_ok_iff.1 (check_eq_ok_iff.1 h.check).2.2.2.2
  by_cases hzero : n = 0
  · omega
  · have heffective : row.cache.effectiveTtl = some (.ofMillis n) := by
      simp [CacheSettings.effectiveTtl, httl, Span.isZero, Span.ofMillis, hzero]
    have hlongest := hcheck _ heffective
    simp only [Span.longest, Span.ofMillis] at hlongest
    unfold Text.maxWord
    omega

theorem parse_valueColumns (h : row.Writable) :
    Items.parse (",".intercalate row.valueColumns) = row.valueColumns := by
  obtain ⟨-, hcolumns, -⟩ := check_eq_ok_iff.1 h.check
  exact Items.parse_intercalate
    (fun column hmem => Identifier.isItem_of_isValid (hcolumns column hmem)) h.nodup_valueColumns

theorem bare_of_mem_texts (h : row.Writable) :
    ∀ p ∈ row.texts, ∀ text, p.2 = some text → Text.Bare text ∧ text ≠ "" := by
  obtain ⟨htable, hcolumns, hwhere, hkey, -⟩ := check_eq_ok_iff.1 h.check
  have hne : ∀ text : String, ¬Text.allBlank text → text ≠ "" := by
    rintro text hshows rfl
    exact hshows rfl
  simp only [texts, List.forall_mem_cons, Option.some.injEq, forall_eq']
  refine ⟨?tableName, ?valueColumns, ⟨h.bare_whereClause, hne _ hwhere⟩,
    ⟨h.bare_keyName, hne _ hkey⟩, ⟨Text.bare_decimal _, Text.decimal_ne_empty _⟩, ?clearOnEnable,
    ?expiration, nofun⟩
  case tableName =>
    exact ⟨Identifier.bare_of_isValid htable, Identifier.ne_empty_of_isValid htable⟩
  case valueColumns =>
    intro text htext
    split at htext
    · cases htext
    · next hsome =>
      cases htext
      refine ⟨Identifier.bare_intercalate hcolumns, fun hempty => hsome ?_⟩
      -- Read again, the empty text is the empty list.
      rw [← h.parse_valueColumns, hempty]
      rfl
  case clearOnEnable =>
    have hfalse : Identifier.isValid "false" := by decide +kernel
    have htrue : Identifier.isValid "true" := by decide +kernel
    cases row.cache.clearOnEnable
    · exact ⟨Identifier.bare_of_isValid hfalse, Identifier.ne_empty_of_isValid hfalse⟩
    · exact ⟨Identifier.bare_of_isValid htrue, Identifier.ne_empty_of_isValid htrue⟩
  case expiration =>
    intro text htext
    obtain ⟨ttl, -, rfl⟩ := Option.map_eq_some_iff.1 htext
    exact ⟨Period.bare_millisText _, Period.millisText_ne_empty _⟩

theorem trimmed (h : row.Writable) : row.properties.Trimmed := by
  intro name text hget
  rw [properties, Properties.get?_ofTexts (nodup_names row), Option.join_eq_some_iff] at hget
  exact h.bare_of_mem_texts _ (Keyed.mem_of_valueIn hget) text rfl

theorem optional?_eq (h : row.Writable) (hps : row.properties.Pads ps)
    (htext : (name, text?) ∈ row.texts) : ps.optional? name = text? := by
  rw [hps.optional?_eq h.trimmed, properties, Properties.get?_ofTexts (nodup_names row),
    Keyed.valueIn_of_mem (nodup_names row) htext]
  rfl

theorem readFrom (h : row.Writable) (hps : row.properties.Pads ps) : row.ReadFrom ps where
  tableName := Properties.required_eq_ok_iff.2 (h.optional?_eq hps (by simp [texts]))
  valueColumns := by
    have htext : (Properties.valueColumns, if row.valueColumns = [] then none
        else some (",".intercalate row.valueColumns)) ∈ row.texts := by simp [texts]
    rw [h.optional?_eq hps htext]
    split
    · next hnone => exact hnone.symm
    · exact h.parse_valueColumns
  whereClause := Properties.required_eq_ok_iff.2 (h.optional?_eq hps (by simp [texts]))
  keyName := by
    have htext : (Properties.keyName, some row.keyName) ∈ row.texts := by simp [texts]
    rw [h.optional?_eq hps htext]
    rfl
  capacity := Properties.count_of_optional? (h.optional?_eq hps (by simp [texts])) h.capacity_le
  clearOnEnable := Properties.flag_of_optional? (h.optional?_eq hps (by simp [texts]))
  ttl := by
    have htext : (Properties.expiration,
        row.cache.ttl.map fun ttl => Period.millisText ttl.millis) ∈ row.texts := by simp [texts]
    rw [ttlOf, h.optional?_eq hps htext]
    cases httl : row.cache.ttl with
    | none => rfl
    | some ttl =>
      obtain ⟨n, rfl⟩ := h.wholeMillis ttl httl
      have hmillis : (Span.ofMillis n).millis = n := by simp [Span.ofMillis, Span.millis]
      rw [Option.map_some, hmillis]
      simp only [Period.parse_millisText (h.millis_le httl)]
      rfl
  check := h.check

end Writable

/-- Written as properties, with any white space around the texts, settings are read as they were
exactly if they pass the check and properties can give them. -/
theorem ofProperties_eq_ok_iff_of_pads (hps : row.properties.Pads ps) :
    ofProperties ps = .ok row ↔ row.Writable := by
  rw [ofProperties_eq_ok_iff]
  constructor
  · intro h
    exact {
      check := h.check
      nodup_valueColumns := by
        rw [← h.valueColumns]
        cases ps.optional? Properties.valueColumns with
        | none => exact List.nodup_nil
        | some text => exact Items.nodup_parse text
      bare_whereClause :=
        Properties.bare_of_optional? (Properties.required_eq_ok_iff.1 h.whereClause)
      bare_keyName := by
        have hvalid : Identifier.isValid keyCoordinate := by decide +kernel
        rw [← h.keyName]
        cases hname : ps.optional? Properties.keyName with
        | none => exact Identifier.bare_of_isValid hvalid
        | some text => exact Properties.bare_of_optional? hname
      capacity_le := Properties.le_of_count h.capacity
      wholeMillis := fun ttl httl => exists_ofMillis_of_ttlOf (httl ▸ h.ttl) }
  · exact fun h => h.readFrom hps

/-- The settings with the most records and the longest time to live that properties can give. -/
def greatest : RowSettings where
  tableName := "größe"
  valueColumns := ["id", "größe.wert"]
  whereClause := "id = ?  AND\tname = ?"
  keyName := "mein schlüssel"
  cache := { capacity := Text.maxWord, ttl := some .longest, clearOnEnable := false }

theorem ofProperties_eq_ok_iff_of_pads_greatest :
    let padded := greatest.properties.between "\t\u00a0" "\u2003"
    greatest.properties.Pads padded ∧
      padded.get? Properties.expiration = some "\t\u00a09223372036854775807 ms\u2003" ∧
      ofProperties padded = .ok greatest := by
  have hbefore : Text.allBlank "\t\u00a0" := by decide
  have hafter : Text.allBlank "\u2003" := by decide
  have hpads := Properties.pads_between hbefore hafter greatest.properties
  refine ⟨hpads, by decide +kernel, (ofProperties_eq_ok_iff_of_pads hpads).2 ?_⟩
  exact {
    check := by decide +kernel
    nodup_valueColumns := by decide
    bare_whereClause := (Text.trim_eq_iff (t := greatest.whereClause).1 (by decide)).1
    bare_keyName := (Text.trim_eq_iff (t := greatest.keyName).1 (by decide)).1
    capacity_le := le_rfl
    wholeMillis := fun _ httl => ⟨9223372036854775807, (Option.some.inj httl).symm⟩ }

end RowSettings

end KeyedRecords
