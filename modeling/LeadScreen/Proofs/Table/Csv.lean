import LeadScreen.Proofs.Text.Lines
import LeadScreen.Table.Csv.Printer

set_option autoImplicit false

/-! # Comma-separated values that are read back

The reader is a machine over characters. Of a field, written with quotes or without, it makes the
field and waits for what ends it (`run_writeField`); commas and line ends then do the rest. So
every table is read back from what is written of it (`read_write`), as long as its fields are not
too large, and there is a text for every table.
-/

namespace LeadScreen.Table.Csv

open Reader

variable {t : Text} {c : Char} {field : Text} {size : Nat} {record : List Text}
  {records : List (List Text)} {place : Place}

def run (r : Reader) (t : Text) : Reader :=
  t.foldl Reader.step r

theorem run_append (r : Reader) (a b : Text) : run r (a ++ b) = run (run r a) b :=
  List.foldl_append

theorem run_cons (r : Reader) (c : Char) (t : Text) : run r (c :: t) = run (r.step c) t := rfl

def Place.beginsField (p : Place) : Prop :=
  p = .recordStart ∨ p = .fieldStart

/-! ## Fields -/

theorem plain_of_not_needsQuotes (h : needsQuotes c = false) :
    c ≠ ',' ∧ c ≠ '"' ∧ isLineEnd c = false := by
  simp only [needsQuotes, Bool.or_eq_false_iff, beq_eq_false_iff_ne] at h
  obtain ⟨⟨⟨hcomma, hquote⟩, hfeed⟩, hreturn⟩ := h
  refine ⟨hcomma, hquote, ?_⟩
  rw [isLineEnd, beq_eq_false_iff_ne.mpr hfeed, beq_eq_false_iff_ne.mpr hreturn]
  rfl

theorem addChar_of_lt (hsize : size < fieldLimit) (p : Place) :
    addChar ⟨place, field, size, record, records, false⟩ p c
      = ⟨p, c :: field, size + 1, record, records, false⟩ :=
  if_neg (Nat.not_le.mpr hsize)

/-- A character that needs no quotes begins a field without them. -/
theorem step_begin (hplace : place.beginsField) (h : needsQuotes c = false) :
    Reader.step ⟨place, [], 0, record, records, false⟩ c
      = ⟨.unquoted, [c], 1, record, records, false⟩ := by
  obtain ⟨hcomma, hquote, hend⟩ := plain_of_not_needsQuotes h
  have hstart : ∀ r : Reader, r.startField c = r.addChar .unquoted c := fun r => by
    rw [startField, hend, if_neg Bool.false_ne_true, if_neg hquote, if_neg hcomma]
  have hadd := @addChar_of_lt c [] 0 record records place (by decide) .unquoted
  rcases hplace with rfl | rfl
  · show Reader.startRecord _ c = _
    rw [startRecord, hend, if_neg Bool.false_ne_true, hstart, hadd]
  · show Reader.startField _ c = _
    rw [hstart, hadd]

theorem step_unquoted (h : needsQuotes c = false) (hsize : size < fieldLimit) :
    Reader.step ⟨.unquoted, field, size, record, records, false⟩ c
      = ⟨.unquoted, c :: field, size + 1, record, records, false⟩ := by
  obtain ⟨hcomma, -, hend⟩ := plain_of_not_needsQuotes h
  show (if isLineEnd c then _ else if c = ',' then _ else addChar _ .unquoted c) = _
  rw [hend, if_neg Bool.false_ne_true, if_neg hcomma, addChar_of_lt hsize]

/-- A field without quotes goes on as long as nothing needs them. -/
theorem run_unquoted (hplain : ∀ c ∈ t, needsQuotes c = false)
    (hsize : size + t.length ≤ fieldLimit) :
    run ⟨.unquoted, field, size, record, records, false⟩ t
      = ⟨.unquoted, t.reverse ++ field, size + t.length, record, records, false⟩ := by
  induction t generalizing field size with
  | nil => rfl
  | cons c t ih =>
      rw [List.length_cons] at hsize
      rw [run_cons, step_unquoted (hplain c List.mem_cons_self) (by omega),
        ih (fun d hd => hplain d (List.mem_cons_of_mem c hd)) (by omega), List.reverse_cons,
        List.append_assoc, List.singleton_append, List.length_cons, Nat.add_right_comm,
        ← Nat.add_assoc]

/-- Between quotes everything belongs to the field, and two quotes are one. -/
theorem run_quoted (hsize : size + t.length ≤ fieldLimit) :
    run ⟨.quoted, field, size, record, records, false⟩ (Text.replace '"' ['"', '"'] t)
      = ⟨.quoted, t.reverse ++ field, size + t.length, record, records, false⟩ := by
  induction t generalizing field size with
  | nil => rfl
  | cons c t ih =>
      rw [List.length_cons] at hsize
      have hlt : size < fieldLimit := by omega
      have hchar : run ⟨.quoted, field, size, record, records, false⟩
          (if c = '"' then ['"', '"'] else [c])
            = ⟨.quoted, c :: field, size + 1, record, records, false⟩ := by
        by_cases hquote : c = '"'
        · rw [if_pos hquote, hquote]
          exact addChar_of_lt hlt .quoted
        · rw [if_neg hquote]
          show (if c = '"' then _ else addChar _ .quoted c) = _
          rw [if_neg hquote, addChar_of_lt hlt]
      rw [Text.replace, List.flatMap_cons, run_append, hchar, ← Text.replace, ih (by omega),
        List.reverse_cons, List.append_assoc, List.singleton_append, List.length_cons,
        Nat.add_right_comm, ← Nat.add_assoc]

/-- **A field is read as it was**, and the reader waits for what ends it. -/
theorem run_writeField (record : List Text) (records : List (List Text))
    (hplace : place.beginsField) (hsize : t.length ≤ fieldLimit) :
    ∃ p n, run ⟨place, [], 0, record, records, false⟩ (writeField t)
        = ⟨p, t.reverse, n, record, records, false⟩
      ∧ (p = .unquoted ∨ p = .quoteInQuoted ∨ p = place ∧ t = []) := by
  unfold writeField
  by_cases hquotes : t.any needsQuotes = true
  · have hopen : Reader.step ⟨place, [], 0, record, records, false⟩ '"'
        = ⟨.quoted, [], 0, record, records, false⟩ := by
      rcases hplace with rfl | rfl <;> rfl
    refine ⟨.quoteInQuoted, t.length, ?_, Or.inr (Or.inl rfl)⟩
    rw [if_pos hquotes, quotedField, List.cons_append, run_cons, hopen, run_append,
      run_quoted (by omega), List.append_nil, Nat.zero_add]
    rfl
  · rw [if_neg hquotes]
    have hplain : ∀ c ∈ t, needsQuotes c = false := by simpa using hquotes
    cases t with
    | nil => exact ⟨place, 0, rfl, Or.inr (Or.inr ⟨rfl, rfl⟩)⟩
    | cons c t =>
        rw [List.length_cons] at hsize
        refine ⟨.unquoted, 1 + t.length, ?_, Or.inl rfl⟩
        rw [run_cons, step_begin hplace (hplain c List.mem_cons_self),
          run_unquoted (fun d hd => hplain d (List.mem_cons_of_mem c hd)) (by omega),
          List.reverse_cons]

/-! ## Records -/

/-- Fields with commas between them and the end of a line behind them are a record. -/
theorem run_fields {first : Text} {fields : List Text} (hplace : place.beginsField)
    (hsome : place = .fieldStart ∨ first ≠ [] ∨ fields ≠ [])
    (hsize : ∀ t ∈ first :: fields, t.length ≤ fieldLimit) :
    run ⟨place, [], 0, record, records, false⟩
        (Text.joinWith [','] ((first :: fields).map writeField) ++ ['\r', '\n'])
      = ⟨.recordStart, [], 0, [], (record.reverse ++ first :: fields) :: records, false⟩ := by
  -- field by field, with the record as it is before each
  induction fields generalizing place first record with
  | nil =>
      obtain ⟨p, n, hrun, hp⟩ := run_writeField record records hplace
        (hsize first List.mem_cons_self)
      have hend : run ⟨p, first.reverse, n, record, records, false⟩ ['\r', '\n']
          = ⟨.recordStart, [], 0, [], (first.reverse.reverse :: record).reverse :: records, false⟩ := by
        rcases hp with rfl | rfl | ⟨rfl, hempty⟩
        · rfl
        · rfl
        · -- an empty field by itself would be no field at the start of a record
          rcases hsome with rfl | hne | hne
          · rfl
          · exact absurd hempty hne
          · exact absurd rfl hne
      calc run ⟨place, [], 0, record, records, false⟩
            (Text.joinWith [','] ([first].map writeField) ++ ['\r', '\n'])
          = run (run ⟨place, [], 0, record, records, false⟩ (writeField first)) ['\r', '\n'] := by
            rw [List.map_singleton, Text.joinWith_singleton, run_append]
        _ = ⟨.recordStart, [], 0, [], (first.reverse.reverse :: record).reverse :: records,
              false⟩ := by rw [hrun, hend]
        _ = _ := by rw [List.reverse_reverse, List.reverse_cons]
  | cons next fields ih =>
      obtain ⟨p, n, hrun, hp⟩ := run_writeField record records hplace
        (hsize first List.mem_cons_self)
      have hcomma : Reader.step ⟨p, first.reverse, n, record, records, false⟩ ','
          = ⟨.fieldStart, [], 0, first.reverse.reverse :: record, records, false⟩ := by
        rcases hp with rfl | rfl | ⟨rfl, -⟩
        · rfl
        · rfl
        · rcases hplace with rfl | rfl <;> rfl
      -- behind the comma the next field begins, which is never the start of a record
      have hrest := @ih (first :: record) .fieldStart next (Or.inr rfl) (Or.inl rfl)
        fun t ht => hsize t (List.mem_cons_of_mem first ht)
      calc run ⟨place, [], 0, record, records, false⟩
            (Text.joinWith [','] ((first :: next :: fields).map writeField) ++ ['\r', '\n'])
          = run ((run ⟨place, [], 0, record, records, false⟩ (writeField first)).step ',')
              (Text.joinWith [','] ((next :: fields).map writeField) ++ ['\r', '\n']) := by
            rw [List.map_cons, List.map_cons, Text.joinWith_cons_cons, List.append_assoc,
              run_append, List.append_assoc, List.singleton_append, run_cons]
        _ = run ⟨.fieldStart, [], 0, first :: record, records, false⟩
              (Text.joinWith [','] ((next :: fields).map writeField) ++ ['\r', '\n']) := by
            rw [hrun, hcomma, List.reverse_reverse]
        _ = ⟨.recordStart, [], 0, [], ((first :: record).reverse ++ next :: fields) :: records,
              false⟩ := hrest
        _ = _ := by rw [List.reverse_cons, List.append_assoc, List.singleton_append]

/-- **A record is read as it was.** -/
theorem run_writeRecord {fields : List Text} (hsize : ∀ t ∈ fields, t.length ≤ fieldLimit) :
    run ⟨.recordStart, [], 0, [], records, false⟩ (writeRecord fields)
      = ⟨.recordStart, [], 0, [], fields :: records, false⟩ := by
  unfold writeRecord
  split
  · rfl
  · rename_i hnot
    cases fields with
    | nil => rfl
    | cons first fields =>
        have hsome : first ≠ [] ∨ fields ≠ [] := by
          by_contra hnone
          obtain ⟨hfirst, hfields⟩ := not_or.mp hnone
          exact hnot (by rw [not_not.mp hfirst, not_not.mp hfields])
        exact run_fields (Or.inl rfl) (Or.inr hsome) hsize

/-! ## Tables -/

theorem run_write (records : List (List Text)) {rows : List (List Text)}
    (hsize : ∀ row ∈ rows, ∀ t ∈ row, t.length ≤ fieldLimit) :
    run ⟨.recordStart, [], 0, [], records, false⟩ (write rows)
      = ⟨.recordStart, [], 0, [], rows.reverse ++ records, false⟩ := by
  induction rows generalizing records with
  | nil => rfl
  | cons row rows ih =>
      rw [write, List.flatMap_cons, run_append, run_writeRecord (hsize row List.mem_cons_self),
        ← write, ih _ fun r hr => hsize r (List.mem_cons_of_mem row hr), List.reverse_cons,
        List.append_assoc, List.singleton_append]

/-- **What is written is read back.** -/
theorem read_write {rows : List (List Text)}
    (hsize : ∀ row ∈ rows, ∀ t ∈ row, t.length ≤ fieldLimit) : read (write rows) = ⟨rows, false⟩ := by
  have hrun := run_write [] hsize
  rw [List.append_nil] at hrun
  show Contents.mk (Reader.finish (run {} (write rows))).records.reverse
    (Reader.finish (run {} (write rows))).failed = _
  rw [hrun]
  show Contents.mk rows.reverse.reverse false = _
  rw [List.reverse_reverse]

end LeadScreen.Table.Csv
