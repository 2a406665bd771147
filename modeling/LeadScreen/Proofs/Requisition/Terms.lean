import LeadScreen.Proofs.Requisition.Marker
import LeadScreen.Proofs.Text.Key
import LeadScreen.Proofs.Text.Lines

set_option autoImplicit false

/-! # The terms of a requisition

A segment states a term if it has a colon: the key before its first colon has the value behind it
(`States`). Of the segments that state a key the last one counts. What is read is in a form of its
own (`IsTerm`): keys are in normal form and so without colons and bars, values are trimmed and
without bars. So the terms can be written as segments again, in any order, and are read back as they
are (`readTerms_last_stated`).
-/

namespace LeadScreen

/-! ## Setting keys one after the other -/

namespace Assoc

variable {κ α : Type} [DecidableEq κ] {entries a b : Assoc κ α} {k : κ} {v : α}

/-- The value of a key is that of its first entry. -/
theorem get?_eq_some_iff : a.get? k = some v
    ↔ ∃ before after, a = before ++ (k, v) :: after ∧ k ∉ before.map Prod.fst := by
  induction a with
  | nil => simp
  | cons entry rest ih =>
      obtain ⟨k', v'⟩ := entry
      rw [get?]
      by_cases hk : k' = k
      · subst hk
        rw [if_pos rfl]
        constructor
        · intro h
          exact ⟨[], rest, by rw [Option.some.inj h, List.nil_append], List.not_mem_nil⟩
        · rintro ⟨before, after, hsplit, hnot⟩
          cases before with
          | nil => rw [(Prod.mk.inj (List.cons.inj hsplit).1).2]
          | cons entry before =>
              rw [← (List.cons.inj hsplit).1] at hnot
              exact absurd List.mem_cons_self hnot
      · rw [if_neg hk, ih]
        constructor
        · rintro ⟨before, after, rfl, hnot⟩
          refine ⟨(k', v') :: before, after, rfl, fun hmem => ?_⟩
          exact (List.mem_cons.mp hmem).elim (fun heq => hk heq.symm) hnot
        · rintro ⟨before, after, hsplit, hnot⟩
          cases before with
          | nil => exact absurd (Prod.mk.inj (List.cons.inj hsplit).1).1 hk
          | cons entry before =>
              exact ⟨before, after, (List.cons.inj hsplit).2,
                fun hmem => hnot (List.mem_cons_of_mem _ hmem)⟩

def ofEntries (entries : List (κ × α)) : Assoc κ α :=
  entries.foldl (fun m kv => m.set kv.1 kv.2) []

theorem ofEntries_append_singleton (entries : List (κ × α)) (kv : κ × α) :
    ofEntries (entries ++ [kv]) = (ofEntries entries).set kv.1 kv.2 := by
  rw [ofEntries, List.foldl_append]
  rfl

/-- **The last value that a key is set to is its value.** -/
theorem get?_ofEntries (entries : List (κ × α)) (k : κ) :
    (ofEntries entries).get? k = get? k entries.reverse := by
  induction entries using List.reverseRecOn with
  | nil => rfl
  | append_singleton entries kv ih =>
      rw [ofEntries_append_singleton, List.reverse_append, List.reverse_singleton,
        List.singleton_append, get?]
      by_cases hk : kv.1 = k
      · rw [if_pos hk, ← hk, get?_set_self]
      · rw [if_neg hk, get?_set_of_ne (Ne.symm hk), ih]

theorem mem_of_mem_ofEntries (h : (k, v) ∈ ofEntries entries) : (k, v) ∈ entries := by
  induction entries using List.reverseRecOn with
  | nil => cases h
  | append_singleton entries kv ih =>
      rw [ofEntries_append_singleton] at h
      rcases mem_alter h with h | ⟨rfl, rfl⟩
      · exact List.mem_append_left _ (ih h)
      · exact List.mem_append_right _ List.mem_cons_self

theorem nodup_keys_ofEntries (entries : List (κ × α)) :
    ((ofEntries entries).map Prod.fst).Nodup := by
  induction entries using List.reverseRecOn with
  | nil => exact List.nodup_nil
  | append_singleton entries kv ih =>
      rw [ofEntries_append_singleton]
      exact nodup_keys_alter ih kv.1 _

theorem alter_of_not_mem {f : Option α → α} (h : k ∉ a.map Prod.fst) :
    a.alter k f = a ++ [(k, f none)] := by
  induction a with
  | nil => rfl
  | cons entry rest ih =>
      obtain ⟨k', v'⟩ := entry
      rw [List.map_cons, List.mem_cons, not_or] at h
      rw [alter, if_neg (Ne.symm h.1), ih h.2, List.cons_append]

/-- Where no key is set twice, the entries stay as they are. -/
theorem ofEntries_eq_self (h : (entries.map Prod.fst).Nodup) : ofEntries entries = entries := by
  induction entries using List.reverseRecOn with
  | nil => rfl
  | append_singleton entries kv ih =>
      rw [List.map_append, List.nodup_append] at h
      obtain ⟨hnodup, -, hnew⟩ := h
      have hkey : kv.1 ∉ entries.map Prod.fst := fun hmem =>
        hnew kv.1 hmem kv.1 List.mem_cons_self rfl
      rw [ofEntries_append_singleton, ih hnodup, set, alter_of_not_mem hkey]

/-- The order of entries does not show in the values of keys. -/
theorem get?_congr_of_perm (ha : (a.map Prod.fst).Nodup) (h : a.Perm b) (k : κ) :
    a.get? k = b.get? k := by
  have hb : (b.map Prod.fst).Nodup := (h.map Prod.fst).nodup_iff.mp ha
  refine Option.ext fun v => ⟨fun hget => ?_, fun hget => ?_⟩
  · exact get?_eq_some_of_mem hb (h.mem_iff.mp (mem_of_get?_eq_some hget))
  · exact get?_eq_some_of_mem ha (h.mem_iff.mpr (mem_of_get?_eq_some hget))

end Assoc

namespace Requisition

open Text

variable {t segment before k v : Text} {segments : List Text} {entries : List (Text × Text)}

/-! ## What a segment states -/

/-- **A segment states a term**: the key before its first colon has the value behind it. -/
inductive States : Text → Text → Text → Prop where
  | intro {before : Text} (h : ':' ∉ before) (after : Text) :
      States (before ++ ':' :: after) before.key after.trim

theorem term?_append_cons (h : ':' ∉ before) (after : Text) :
    term? (before ++ ':' :: after) = some (before.key, after.trim) := by
  have hbefore : ':' ∉ before.trimStart := fun hmem =>
    h ((List.dropWhile_suffix isBlank).subset hmem)
  rw [term?, splitAtColon?, trim_append_cons (by decide),
    cut?_eq_some_iff.mpr ⟨rfl, hbefore⟩, Option.map_some, Option.map_some, key_trim,
    trim_trimEnd, ← key_trim, trim_trimStart, key_trim]

theorem term?_eq_some_iff : term? segment = some (k, v) ↔ States segment k v := by
  constructor
  · intro h
    by_cases hcolon : ':' ∈ segment
    · obtain ⟨before, after, rfl, hbefore⟩ := List.eq_append_cons_of_mem hcolon
      rw [term?_append_cons hbefore] at h
      obtain ⟨rfl, rfl⟩ := Prod.mk.inj (Option.some.inj h)
      exact .intro hbefore after
    · have hnone : cut? ':' segment.trim = none :=
        cut?_eq_none_iff.mpr fun hmem => hcolon (mem_of_mem_trim hmem)
      rw [term?, splitAtColon?, hnone] at h
      cases h
  · rintro ⟨hbefore, after⟩
    exact term?_append_cons hbefore after

theorem term?_trim (segment : Text) : term? segment.trim = term? segment := by
  rw [term?, trim_trim]
  rfl

/-! ## The last segment counts -/

theorem readTerms_eq_ofEntries (t : Text) :
    readTerms t = Assoc.ofEntries ((splitOn '|' t).filterMap term?) := rfl

theorem mem_keys_filterMap_iff :
    k ∈ (segments.filterMap term?).map Prod.fst ↔ ∃ segment ∈ segments, ∃ v, States segment k v := by
  rw [List.mem_map]
  constructor
  · rintro ⟨⟨k', v⟩, hmem, rfl⟩
    obtain ⟨segment, hsegment, hterm⟩ := List.mem_filterMap.mp hmem
    exact ⟨segment, hsegment, v, term?_eq_some_iff.mp hterm⟩
  · rintro ⟨segment, hsegment, v, hstates⟩
    exact ⟨(k, v), List.mem_filterMap.mpr ⟨segment, hsegment, term?_eq_some_iff.mpr hstates⟩, rfl⟩

/-- The first of some segments to state a key gives its first entry. -/
theorem get?_filterMap_eq_some_iff : Assoc.get? k (segments.filterMap term?) = some v
    ↔ ∃ before segment after, segments = before ++ segment :: after ∧ States segment k v
      ∧ ∀ other ∈ before, ∀ w, ¬ States other k w := by
  rw [Assoc.get?_eq_some_iff]
  constructor
  · rintro ⟨terms, terms', hsplit, hnot⟩
    obtain ⟨before, rest, rfl, rfl, hrest⟩ := List.filterMap_eq_append_iff.mp hsplit
    obtain ⟨silent, segment, after, rfl, hsilent, hterm, -⟩ := List.filterMap_eq_cons_iff.mp hrest
    refine ⟨before ++ silent, segment, after, by rw [List.append_assoc],
      term?_eq_some_iff.mp hterm, fun other hother w hstates => ?_⟩
    rcases List.mem_append.mp hother with hother | hother
    · exact hnot (mem_keys_filterMap_iff.mpr ⟨other, hother, w, hstates⟩)
    · have hnone := hsilent other hother
      rw [term?_eq_some_iff.mpr hstates] at hnone
      cases hnone
  · rintro ⟨before, segment, after, rfl, hstates, hnone⟩
    refine ⟨before.filterMap term?, after.filterMap term?, ?_, fun hmem => ?_⟩
    · rw [List.filterMap_append, List.filterMap_cons_some (term?_eq_some_iff.mpr hstates)]
    · obtain ⟨other, hother, w, hother'⟩ := mem_keys_filterMap_iff.mp hmem
      exact hnone other hother w hother'

theorem get?_readTerms (t k : Text) :
    (readTerms t).get? k = Assoc.get? k ((splitOn '|' t).reverse.filterMap term?) := by
  rw [readTerms_eq_ofEntries, Assoc.get?_ofEntries, List.filterMap_reverse]

theorem get?_readTerms_eq_some_iff : (readTerms t).get? k = some v
    ↔ ∃ earlier segment later, splitOn '|' t = earlier ++ segment :: later
      ∧ States segment k v ∧ ∀ other ∈ later, ∀ w, ¬ States other k w := by
  rw [get?_readTerms, get?_filterMap_eq_some_iff]
  constructor
  · rintro ⟨later, segment, earlier, hsplit, hstates, hlast⟩
    refine ⟨earlier.reverse, segment, later.reverse, ?_, hstates, fun other hother =>
      hlast other (List.mem_reverse.mp hother)⟩
    rw [← List.reverse_inj, hsplit]
    simp
  · rintro ⟨earlier, segment, later, hsplit, hstates, hlast⟩
    refine ⟨later.reverse, segment, earlier.reverse, ?_, hstates, fun other hother =>
      hlast other (List.mem_reverse.mp hother)⟩
    rw [hsplit]
    simp

/-- A key is among the terms exactly if a segment states it. -/
theorem exists_get?_readTerms_iff : (∃ v, (readTerms t).get? k = some v)
    ↔ ∃ segment ∈ splitOn '|' t, ∃ v, States segment k v := by
  rw [get?_readTerms, Assoc.exists_get?_iff, mem_keys_filterMap_iff]
  simp only [List.mem_reverse]

/-! ## Writing terms -/

/-- **A term as it is read**: the key is in normal form, the value is trimmed and holds no bar. -/
structure IsTerm (entry : Text × Text) : Prop where
  key : NormalKey entry.1
  trimmed : entry.2.trim = entry.2
  unbarred : '|' ∉ entry.2

theorem isTerm_of_mem_readTerms (h : (k, v) ∈ readTerms t) : IsTerm (k, v) := by
  obtain ⟨segment, hsegment, hterm⟩ := List.mem_filterMap.mp (Assoc.mem_of_mem_ofEntries h)
  cases term?_eq_some_iff.mp hterm with
  | @intro before hbefore after =>
      refine ⟨normalKey_key before, trim_trim after, fun hbar => ?_⟩
      have hmem : '|' ∈ before ++ ':' :: after :=
        List.mem_append_right before (List.mem_cons_of_mem ':' (mem_of_mem_trim hbar))
      have hno := not_of_mem_splitWhere hsegment hmem
      cases hno

def writeTerm (entry : Text × Text) : Text :=
  entry.1 ++ ": ".toList ++ entry.2

/-- **Terms as segments**, with bars between them. -/
def writeTerms (entries : List (Text × Text)) : Text :=
  joinWith " | " (entries.map writeTerm)

theorem IsTerm.term?_writeTerm {entry : Text × Text} (h : IsTerm entry) :
    term? (writeTerm entry) = some entry := by
  have hcolon : ':' ∉ entry.1 := h.key.not_mem (by decide) (by decide)
  have hspace : trim (' ' :: entry.2) = entry.2 :=
    (trim_cons_of_blank (by decide) entry.2).trans h.trimmed
  have hwritten : writeTerm entry = entry.1 ++ ':' :: ' ' :: entry.2 := by simp [writeTerm]
  rw [hwritten, term?_append_cons hcolon, h.key.key_eq_self, hspace]

theorem IsTerm.bar_not_mem_writeTerm {entry : Text × Text} (h : IsTerm entry) :
    '|' ∉ writeTerm entry := by
  have hkey : '|' ∉ entry.1 := h.key.not_mem (by decide) (by decide)
  exact List.not_mem_append (List.not_mem_append hkey (by decide)) h.unbarred

/-- Joined segments are split again where they were joined, blanks around the bars aside. -/
theorem map_trim_splitOn_joinWith (hne : segments ≠ []) (h : ∀ segment ∈ segments, '|' ∉ segment) :
    (splitOn '|' (joinWith " | " segments)).map trim = segments.map trim := by
  induction segments with
  | nil => exact absurd rfl hne
  | cons segment segments ih =>
      have hsegment := h segment List.mem_cons_self
      cases segments with
      | nil => rw [joinWith_singleton, splitOn_of_not_mem hsegment]
      | cons next segments =>
          have hjoined : joinWith " | " (segment :: next :: segments)
              = (segment ++ [' ']) ++ '|' :: ([' '] ++ joinWith " | " (next :: segments)) := by
            rw [joinWith_cons_cons]
            simp
          have hfirst : '|' ∉ segment ++ [' '] := List.not_mem_append hsegment (by decide)
          rw [hjoined, splitOn_append_cons, splitOn_of_not_mem hfirst, List.map_append,
            List.map_singleton, trim_append_of_blank (blank_of_allBlank (by decide)),
            map_trim_splitOn_blank_append (by decide) (blank_of_allBlank (by decide)),
            ih (List.cons_ne_nil _ _) fun other hother => h other (List.mem_cons_of_mem _ hother)]
          rfl

theorem filterMap_term?_map_trim (segments : List Text) :
    (segments.map trim).filterMap term? = segments.filterMap term? := by
  rw [List.filterMap_map]
  exact List.filterMap_congr fun segment _ => term?_trim segment

/-- **Written terms are read back.** -/
theorem readTerms_writeTerms (hterms : ∀ entry ∈ entries, IsTerm entry)
    (hkeys : (entries.map Prod.fst).Nodup) : readTerms (writeTerms entries) = entries := by
  by_cases hne : entries = []
  · rw [hne]
    rfl
  · have hbars : ∀ segment ∈ entries.map writeTerm, '|' ∉ segment := by
      intro segment hsegment
      obtain ⟨entry, hentry, rfl⟩ := List.mem_map.mp hsegment
      exact (hterms entry hentry).bar_not_mem_writeTerm
    have hback : entries.filterMap (term? ∘ writeTerm) = entries :=
      (List.filterMap_congr fun entry hentry =>
        (hterms entry hentry).term?_writeTerm).trans List.filterMap_some
    calc readTerms (writeTerms entries)
        = Assoc.ofEntries ((splitOn '|' (writeTerms entries)).filterMap term?) :=
          readTerms_eq_ofEntries _
      _ = Assoc.ofEntries ((entries.map writeTerm).filterMap term?) := by
          rw [← filterMap_term?_map_trim, writeTerms,
            map_trim_splitOn_joinWith (by simpa using hne) hbars, filterMap_term?_map_trim]
      _ = entries := by rw [List.filterMap_map, hback, Assoc.ofEntries_eq_self hkeys]

/-- **The last segment that states a key counts, and terms can be written and read again.** A key is
among the terms exactly if a segment states it, and its value is the one that the last of these
segments states. Written in any order, the terms are read back as they are. -/
theorem readTerms_last_stated (t : Text) :
    (∀ k, (∃ v, (readTerms t).get? k = some v)
      ↔ ∃ segment ∈ splitOn '|' t, ∃ v, States segment k v)
    ∧ (∀ k v, (readTerms t).get? k = some v
      ↔ ∃ earlier segment later, splitOn '|' t = earlier ++ segment :: later
        ∧ States segment k v ∧ ∀ other ∈ later, ∀ w, ¬ States other k w)
    ∧ ∀ entries, entries.Perm (readTerms t) →
      readTerms (writeTerms entries) = entries
        ∧ ∀ k, (readTerms (writeTerms entries)).get? k = (readTerms t).get? k := by
  refine ⟨fun k => exists_get?_readTerms_iff, fun k v => get?_readTerms_eq_some_iff, ?_⟩
  intro entries hperm
  have hkeys : (entries.map Prod.fst).Nodup :=
    (hperm.map Prod.fst).nodup_iff.mpr (Assoc.nodup_keys_ofEntries _)
  have hback : readTerms (writeTerms entries) = entries :=
    readTerms_writeTerms (fun entry hentry => isTerm_of_mem_readTerms (hperm.mem_iff.mp hentry))
      hkeys
  refine ⟨hback, fun k => ?_⟩
  rw [hback]
  exact Assoc.get?_congr_of_perm hkeys hperm k

/-- A key stated three times, one empty key, one empty value and colons in a value, written in the
opposite order. -/
theorem readTerms_last_stated_of_repeated_key :
    (readTerms "Geo: US | : x:y | note | GEO :EU| Level:|geo : UK").Perm
        [("level".toList, []), ([], "x:y".toList), ("geo".toList, "UK".toList)]
      ∧ readTerms (writeTerms [("level".toList, []), ([], "x:y".toList), ("geo".toList, "UK".toList)])
        = [("level".toList, []), ([], "x:y".toList), ("geo".toList, "UK".toList)] := by
  have hperm : [("level".toList, []), ([], "x:y".toList), ("geo".toList, "UK".toList)].Perm
      (readTerms "Geo: US | : x:y | note | GEO :EU| Level:|geo : UK") := by
    decide +kernel
  exact ⟨hperm.symm, ((readTerms_last_stated _).2.2 _ hperm).1⟩

end Requisition

end LeadScreen
