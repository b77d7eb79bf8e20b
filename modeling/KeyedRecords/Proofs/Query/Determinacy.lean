import KeyedRecords.Proofs.Query.Capitals

/-!
The text of a statement determines what it is made of, whatever its condition contains
(`text_eq_text_iff`). The names in it are free of the blank, the comma, the star and the backquote,
so each of them ends where one of these comes next. Reading from the left finds all that stands in
front of the condition, and reading from the right what stands behind it.
-/

namespace KeyedRecords

/-! ## Reading up to a delimiter -/

section Delimiters

variable {α : Type} {a : α} {xs ys us vs : List α}

theorem append_cons_inj_left (hx : a ∉ xs) (hy : a ∉ ys) (h : xs ++ a :: us = ys ++ a :: vs) :
    xs = ys ∧ us = vs := by
  induction xs generalizing ys with
  | nil =>
    cases ys with
    | nil => exact ⟨rfl, (List.cons.inj h).2⟩
    | cons y ys => exact (hy ((List.cons.inj h).1 ▸ List.mem_cons_self)).elim
  | cons x xs ih =>
    cases ys with
    | nil => exact (hx ((List.cons.inj h).1 ▸ List.mem_cons_self)).elim
    | cons y ys =>
      obtain ⟨hhead, htail⟩ := List.cons.inj h
      obtain ⟨hfront, hback⟩ :=
        ih (List.not_mem_of_not_mem_cons hx) (List.not_mem_of_not_mem_cons hy) htail
      exact ⟨by rw [hhead, hfront], hback⟩

theorem append_cons_inj_right (hu : a ∉ us) (hv : a ∉ vs) (h : xs ++ a :: us = ys ++ a :: vs) :
    xs = ys ∧ us = vs := by
  have hreverse := congrArg List.reverse h
  simp only [List.reverse_append, List.reverse_cons, List.append_assoc, List.singleton_append]
    at hreverse
  obtain ⟨hus, hxs⟩ := append_cons_inj_left (by simpa using hu) (by simpa using hv) hreverse
  exact ⟨List.reverse_inj.1 hxs, List.reverse_inj.1 hus⟩

end Delimiters

theorem not_mem_intercalate {c : Char} {separator : String} {parts : List String}
    (hseparator : c ∉ separator.toList) (hparts : ∀ part ∈ parts, c ∉ part.toList) :
    c ∉ (separator.intercalate parts).toList := by
  induction parts with
  | nil => simp
  | cons part rest ih =>
    obtain ⟨hpart, hrest⟩ := List.forall_mem_cons.1 hparts
    cases rest with
    | nil => simpa using hpart
    | cons next rest =>
      rw [String.intercalate_cons_cons, String.toList_append, String.toList_append]
      simp only [List.mem_append, not_or]
      exact ⟨⟨hpart, hseparator⟩, ih hrest⟩

namespace Identifier

variable {name : String} {c : Char}

/-- The characters that stand next to names in statements. -/
def delimiters : List Char := [' ', ',', '*', '`']

theorem not_canFollow_of_delimiter (hc : c ∈ delimiters) : ¬canFollow c := by
  have hall : delimiters.all fun c => ¬canFollow c := by decide +kernel
  exact of_decide_eq_true (List.all_eq_true.1 hall c hc)

theorem not_mem_of_isValid (h : isValid name) (hc : c ∈ delimiters) : c ∉ name.toList :=
  fun hmem => not_canFollow_of_delimiter hc ((isValidChars_iff.1 h).2 c hmem)

theorem blank_not_mem_upper (h : isValid name) : ' ' ∉ (Text.upper name).toList := by
  intro hmem
  rcases mem_upper h hmem with hfollow | haccent
  · exact not_canFollow_of_delimiter (by decide) hfollow
  · exact absurd haccent (by decide)

end Identifier

/-! ## Selections -/

/-- The texts of row queries, and those of key queries where they are selections too. -/
theorem selection_inj {columns columns' table table' rest rest' : String}
    (hcolumns : ' ' ∉ columns.toList) (hcolumns' : ' ' ∉ columns'.toList)
    (htable : ' ' ∉ table.toList) (htable' : ' ' ∉ table'.toList)
    (h : "SELECT " ++ columns ++ " FROM " ++ table ++ " WHERE " ++ rest =
      "SELECT " ++ columns' ++ " FROM " ++ table' ++ " WHERE " ++ rest') :
    columns = columns' ∧ table = table' ∧ rest = rest' := by
  have hfrom : " FROM ".toList = ' ' :: "FROM ".toList := by decide
  have hwhere : " WHERE ".toList = ' ' :: "WHERE ".toList := by decide
  rw [← String.toList_inj] at h
  simp only [String.toList_append, hfrom, hwhere, List.append_assoc, List.cons_append,
    List.append_cancel_left_eq] at h
  obtain ⟨hc, hrest⟩ := append_cons_inj_left hcolumns hcolumns' h
  obtain ⟨ht, hrest⟩ := append_cons_inj_left htable htable' ((List.append_right_inj _).1 hrest)
  exact ⟨String.toList_inj.1 hc, String.toList_inj.1 ht,
    String.toList_inj.1 ((List.append_right_inj _).1 hrest)⟩

namespace RowQuery

variable {q q' : RowQuery}

/-- The columns as they are listed, a star in place of none. -/
def listed (q : RowQuery) : List String := if q.columns.isEmpty then ["*"] else q.columns

theorem columnText_eq (q : RowQuery) : q.columnText = ",".intercalate q.listed := by
  unfold columnText listed
  split
  · rw [String.intercalate_singleton]
  · rfl

theorem listed_ne_nil (q : RowQuery) : q.listed ≠ [] := by
  unfold listed
  split
  · exact List.cons_ne_nil _ _
  · next hne => simpa using hne

/-- A star is no identifier and so not one of the columns. -/
theorem Named.columns_eq_of_listed_eq (h : q.Named) (h' : q'.Named)
    (hlisted : q.listed = q'.listed) : q.columns = q'.columns := by
  have hstar : ¬Identifier.isValid "*" := by
    intro hvalid
    have hnot : '*' ∉ "*".toList := Identifier.not_mem_of_isValid hvalid (by decide)
    exact hnot List.mem_cons_self
  unfold listed at hlisted
  split at hlisted <;> split at hlisted
  · next hq hq' => rw [List.isEmpty_iff.1 hq, List.isEmpty_iff.1 hq']
  · exact (hstar (h'.columns "*" (hlisted ▸ List.mem_cons_self))).elim
  · exact (hstar (h.columns "*" (hlisted ▸ List.mem_cons_self))).elim
  · exact hlisted

theorem Named.not_mem_of_listed {c : Char} (h : q.Named) (hc : c ∈ Identifier.delimiters)
    (hstar : c ≠ '*') : ∀ column ∈ q.listed, c ∉ column.toList := by
  intro column hmem
  unfold listed at hmem
  split at hmem
  · rw [List.mem_singleton.1 hmem]
    simpa using hstar
  · exact Identifier.not_mem_of_isValid (h.columns column hmem) hc

/-- What stands between the commas are the columns again. -/
theorem Named.split_columnText (h : q.Named) :
    (q.columnText.split ',').toList.map (·.copy) = q.listed := by
  have hcomma : ∀ column ∈ q.listed, ',' ∉ column.toList :=
    h.not_mem_of_listed (by decide) (by decide)
  have hsplit := String.toList_split_intercalate hcomma
  rw [if_neg (listed_ne_nil q)] at hsplit
  rw [columnText_eq]
  exact hsplit

theorem Named.columns_eq_of_columnText_eq (h : q.Named) (h' : q'.Named)
    (htext : q.columnText = q'.columnText) : q.columns = q'.columns := by
  refine h.columns_eq_of_listed_eq h' ?_
  rw [← h.split_columnText, ← h'.split_columnText, htext]

theorem Named.blank_not_mem_columnText (h : q.Named) : ' ' ∉ q.columnText.toList := by
  rw [columnText_eq]
  exact not_mem_intercalate (by decide) (h.not_mem_of_listed (by decide) (by decide))

theorem Named.eq_of_text_eq (h : q.Named) (h' : q'.Named) (htext : q.text = q'.text) : q = q' := by
  obtain ⟨hcolumns, htable, hclause⟩ := selection_inj h.blank_not_mem_columnText
    h'.blank_not_mem_columnText (Identifier.not_mem_of_isValid h.table (by decide))
    (Identifier.not_mem_of_isValid h'.table (by decide)) htext
  have hlist := h.columns_eq_of_columnText_eq h' hcolumns
  cases q
  cases q'
  simp only [mk.injEq]
  exact ⟨htable, hlist, hclause⟩

end RowQuery

namespace KeyQuery

variable {q q' : KeyQuery}

theorem text_sql (q : KeyQuery) : q.text .sql = "SELECT " ++ q.resultColumn .sql ++ " FROM " ++
    q.scope ++ " WHERE " ++ (q.whereClause ++ ";") :=
  String.append_assoc

theorem text_cypher (q : KeyQuery) : q.text .cypher = "MATCH (n:`" ++ q.scope ++ "`) WHERE " ++
    q.whereClause ++ " RETURN n.`" ++ q.keyColumn ++ "` AS `" ++ q.keyColumn ++ "` LIMIT 1" :=
  rfl

theorem Named.eq_of_text_sql_eq (h : q.Named) (h' : q'.Named)
    (htext : q.text .sql = q'.text .sql) : q.scope = q'.scope ∧
      q.resultColumn .sql = q'.resultColumn .sql ∧ q.whereClause = q'.whereClause := by
  rw [text_sql, text_sql] at htext
  obtain ⟨hcolumn, hscope, hrest⟩ := selection_inj
    (Identifier.blank_not_mem_upper h.keyColumn) (Identifier.blank_not_mem_upper h'.keyColumn)
    (Identifier.not_mem_of_isValid h.scope (by decide))
    (Identifier.not_mem_of_isValid h'.scope (by decide)) htext
  exact ⟨hscope, hcolumn, (String.append_left_inj _).1 hrest⟩

theorem Named.eq_of_text_cypher_eq (h : q.Named) (h' : q'.Named)
    (htext : q.text .cypher = q'.text .cypher) : q = q' := by
  have hwhere : "`) WHERE ".toList = '`' :: ") WHERE ".toList := by decide
  have has : "` AS `".toList = "` AS ".toList ++ ['`'] := by decide
  rw [text_cypher, text_cypher, ← String.toList_inj] at htext
  simp only [String.toList_append, hwhere, has, List.append_assoc, List.cons_append,
    List.nil_append, List.append_cancel_left_eq] at htext
  -- The scope ends at the first backquote behind it.
  obtain ⟨hscope, hrest⟩ := append_cons_inj_left (Identifier.not_mem_of_isValid h.scope (by decide))
    (Identifier.not_mem_of_isValid h'.scope (by decide)) htext
  -- The second mention of the column begins at the last backquote but one.
  simp only [← List.append_assoc, ← List.cons_append, List.append_cancel_right_eq] at hrest
  obtain ⟨hfront, hcolumn⟩ := append_cons_inj_right
    (Identifier.not_mem_of_isValid h.keyColumn (by decide))
    (Identifier.not_mem_of_isValid h'.keyColumn (by decide)) hrest
  simp only [hcolumn, List.append_cancel_right_eq, List.append_assoc, List.append_cancel_left_eq]
    at hfront
  cases q
  cases q'
  simp only [mk.injEq]
  exact ⟨String.toList_inj.1 hscope, String.toList_inj.1 hcolumn, String.toList_inj.1 hfront⟩

end KeyQuery

/-- Queries with the same text are the same, except that the case of a key column that is asked for
in capitals does not show. -/
theorem text_eq_text_iff :
    (∀ q q' : RowQuery, q.Named → q'.Named → (q.text = q'.text ↔ q = q')) ∧
      ∀ q q' : KeyQuery, q.Named → q'.Named →
        (q.text .cypher = q'.text .cypher ↔ q = q') ∧
        (q.text .sql = q'.text .sql ↔ q.scope = q'.scope ∧
          q.resultColumn .sql = q'.resultColumn .sql ∧ q.whereClause = q'.whereClause) := by
  constructor
  · intro q q' h h'
    exact ⟨h.eq_of_text_eq h', fun heq => heq ▸ rfl⟩
  · intro q q' h h'
    refine ⟨⟨h.eq_of_text_cypher_eq h', fun heq => heq ▸ rfl⟩, h.eq_of_text_sql_eq h', ?_⟩
    rintro ⟨hscope, hcolumn, hclause⟩
    rw [q.text_sql, q'.text_sql, hscope, hcolumn, hclause]

/-- The condition of the first query imitates the end of the statement. -/
def imitating : KeyQuery := ⟨"A", "straße", "x RETURN n.`straße` AS `straße` LIMIT 1"⟩

theorem text_eq_text_iff_imitating :
    let row : RowQuery := ⟨"T", [], "x FROM T WHERE y"⟩
    let row' : RowQuery := ⟨"T", ["x"], "x FROM T WHERE y"⟩
    let plain : KeyQuery := { imitating with whereClause := "x" }
    let other : KeyQuery := { imitating with keyColumn := "strasse" }
    row.Named ∧ row'.Named ∧ row.text ≠ row'.text ∧
      imitating.Named ∧ plain.Named ∧ imitating.text .cypher ≠ plain.text .cypher ∧
      other.Named ∧ imitating.text .sql = other.text .sql := by
  intro row row' plain other
  have hrow : row.Named := ⟨by decide +kernel, by decide +kernel⟩
  have hrow' : row'.Named := ⟨by decide +kernel, by decide +kernel⟩
  have himitating : imitating.Named := ⟨by decide +kernel, by decide +kernel⟩
  have hplain : plain.Named := ⟨by decide +kernel, by decide +kernel⟩
  have hother : other.Named := ⟨by decide +kernel, by decide +kernel⟩
  obtain ⟨hrows, hkeys⟩ := text_eq_text_iff
  refine ⟨hrow, hrow', mt (hrows row row' hrow hrow').1 (by decide), himitating, hplain,
    mt (hkeys imitating plain himitating hplain).1.1 (by decide), hother, ?_⟩
  exact (hkeys imitating other himitating hother).2.2 ⟨rfl, by decide +kernel, rfl⟩

end KeyedRecords
