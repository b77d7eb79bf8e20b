import KeyedRecords.Settings.Lookup

/-!
What passing a check says about settings, part by part. In particular the names in the queries of
accepted settings are identifiers (`RowSettings.named_query`, `QuerySettings.named_query`).
-/

namespace KeyedRecords

theorem bind_eq_ok_iff {ε α β : Type} {x : Except ε α} {f : α → Except ε β} {b : β} :
    (x >>= f) = .ok b ↔ ∃ a, x = .ok a ∧ f a = .ok b := by
  cases x with
  | error e => simp [bind, Except.bind]
  | ok a => simp [bind, Except.bind]

/-- A check in front of a computation. -/
theorem check_bind_eq_ok_iff {ε β : Type} {x : Except ε Unit} {y : Except ε β} {b : β} :
    (x >>= fun _ => y) = .ok b ↔ x = .ok () ∧ y = .ok b := by
  rw [bind_eq_ok_iff]
  exact ⟨fun ⟨⟨⟩, h⟩ => h, fun h => ⟨⟨⟩, h⟩⟩

/-- All names in the query are identifiers. -/
structure RowQuery.Named (q : RowQuery) : Prop where
  table : Identifier.isValid q.table
  columns : ∀ column ∈ q.columns, Identifier.isValid column

/-- All names in the query are identifiers. -/
structure KeyQuery.Named (q : KeyQuery) : Prop where
  scope : Identifier.isValid q.scope
  keyColumn : Identifier.isValid q.keyColumn

theorem checkWhereClause_eq_ok_iff {clause : String} :
    checkWhereClause clause = .ok () ↔ ¬Text.allBlank clause := by
  unfold checkWhereClause
  split <;> simp_all

namespace RowSettings

variable {row : RowSettings} {ps : Properties} {columns : List String}

theorem checkColumns_eq_ok_iff :
    checkColumns columns = .ok () ↔ ∀ column ∈ columns, Identifier.isValid column := by
  induction columns with
  | nil => simp [checkColumns]
  | cons column rest ih =>
    rw [checkColumns, check_bind_eq_ok_iff, List.forall_mem_cons, Identifier.check_eq_ok_iff, ih]

theorem check_eq_ok_iff : row.check = .ok () ↔ Identifier.isValid row.tableName ∧
    (∀ column ∈ row.valueColumns, Identifier.isValid column) ∧ ¬Text.allBlank row.whereClause ∧
    ¬Text.allBlank row.keyName ∧ row.cache.check = .ok () := by
  simp only [check, check_bind_eq_ok_iff, Identifier.check_eq_ok_iff, checkColumns_eq_ok_iff,
    checkWhereClause_eq_ok_iff]
  by_cases hkey : Text.allBlank row.keyName
  · simp [hkey, bind_eq_ok_iff]
  · simp [hkey]

theorem named_query (h : row.check = .ok ()) : row.query.Named := by
  obtain ⟨htable, hcolumns, -⟩ := check_eq_ok_iff.1 h
  exact ⟨htable, hcolumns⟩

theorem check_cache_of_check (h : row.check = .ok ()) : row.cache.check = .ok () := by
  obtain ⟨-, -, -, -, hcache⟩ := check_eq_ok_iff.1 h
  exact hcache

/-- The settings are those that the properties give, one by one, and pass the check. -/
structure ReadFrom (row : RowSettings) (ps : Properties) : Prop where
  tableName : ps.required Properties.tableName = .ok row.tableName
  valueColumns :
    ((ps.optional? Properties.valueColumns).map Items.parse).getD [] = row.valueColumns
  whereClause : ps.required Properties.whereClause = .ok row.whereClause
  keyName : (ps.optional? Properties.keyName).getD keyCoordinate = row.keyName
  capacity : ps.count Properties.cacheSize = .ok row.cache.capacity
  clearOnEnable : ps.flag Properties.clearOnEnable = .ok row.cache.clearOnEnable
  ttl : ttlOf ps = .ok row.cache.ttl
  check : row.check = .ok ()

theorem ofProperties_eq_ok_iff : ofProperties ps = .ok row ↔ row.ReadFrom ps := by
  simp only [ofProperties, bind_eq_ok_iff]
  constructor
  · rintro ⟨capacity, hcapacity, clearOnEnable, hclear, ttl, httl, tableName, htable, whereClause,
      hwhere, ⟨⟩, hcheck, h⟩
    cases h
    exact ⟨htable, rfl, hwhere, rfl, hcapacity, hclear, httl, hcheck⟩
  · obtain ⟨tableName, valueColumns, whereClause, keyName, capacity, ttl, clearOnEnable⟩ := row
    rintro ⟨htable, rfl, hwhere, rfl, hcapacity, hclear, httl, hcheck⟩
    exact ⟨_, hcapacity, _, hclear, _, httl, _, htable, _, hwhere, (), hcheck, rfl⟩

/-- What is read from properties has passed the check. -/
theorem check_of_ofProperties (h : ofProperties ps = .ok row) : row.check = .ok () :=
  (ofProperties_eq_ok_iff.1 h).check

end RowSettings

namespace QuerySettings

variable {c : QuerySettings}

theorem named_query (h : c.check = .ok ()) : c.query.Named := by
  obtain ⟨⟨⟩, hscope, h⟩ := bind_eq_ok_iff.1 h
  obtain ⟨⟨⟩, hcolumn, -⟩ := bind_eq_ok_iff.1 h
  exact ⟨Identifier.check_eq_ok_iff.1 hscope, Identifier.check_eq_ok_iff.1 hcolumn⟩

end QuerySettings

end KeyedRecords
