import Synopsis.Proofs.Index.Compile
import Synopsis.Proofs.Json.Fields
import Synopsis.Proofs.Keyed.Latest

namespace Synopsis.Index

variable {t t' : Tree} {path : Path} {entries : List Entry}

/-- The index that a list of entries makes: each path once, with the entry that came last. -/
def ofEntries (entries : List Entry) : Index := Keyed.latest (entries.map fun e => (e.path, e))

theorem summaries_eq_ofEntries (entries : List Entry) :
    (summaries entries).map (fun e => (e.1, (⟨e.1, e.2⟩ : Entry))) = ofEntries entries := by
  have hsummaries :
      summaries entries = Keyed.latest (entries.map fun e => (e.path, e.summary)) := by
    rw [← Keyed.foldl_set_eq_latest, List.foldl_map]
    rfl
  rw [hsummaries, ← Keyed.latest_map _ fun key summary => (⟨key, summary⟩ : Entry), List.map_map]
  rfl

/-- What was stored is what is loaded, but for a document that may not be read: to replace one does
not make it readable, and a new one is readable if the mask lets its owner read. -/
theorem load_of_store (h : store t path entries = (.ok (), t')) : load t' path =
    if Node.mayRead (t.modeAt (t.destination path)) then
      .ok (ofEntries entries, true)
    else .error (.unreadable path (.file (.of .denied path.text))) := by
  split
  · rename_i hread
    rw [load_store h hread, summaries_eq_ofEntries]
  · rename_i hread
    have htext : t'.readText path = .error (.file (.of .denied path.text)) := by
      rw [Tree.readText, readExact_store h, if_neg hread]
      rfl
    simp only [load, isFile_store h, htext]

theorem load_of_store_repeated : ∃ t', store ⟨.dir [], [], 0o022⟩ ⟨.relative, ["d", "c.json"]⟩
      [⟨"a", "x"⟩, ⟨"b\r\n\u2028\"", ""⟩, ⟨"a", "\x01\\\r"⟩] = (.ok (), t') ∧
    load t' ⟨.relative, ["d", "c.json"]⟩ =
      .ok ([("a", ⟨"a", "\x01\\\r"⟩), ("b\r\n\u2028\"", ⟨"b\r\n\u2028\"", ""⟩)], true) := by
  have hdone : (store ⟨.dir [], [], 0o022⟩ ⟨.relative, ["d", "c.json"]⟩
      [⟨"a", "x"⟩, ⟨"b\r\n\u2028\"", ""⟩, ⟨"a", "\x01\\\r"⟩]).1 = .ok () := by decide +kernel
  have hstore := Prod.mk.eta.symm.trans (congrArg (·, _) hdone)
  refine ⟨_, hstore, ?_⟩
  rw [load_of_store hstore]
  decide +kernel

/-- A document that may be written to and not read is replaced, and cannot be loaded. -/
theorem not_load_of_store : ∃ t', store ⟨.dir [("c.json", .file [] 0o200)], [], 0o022⟩
      ⟨.relative, ["c.json"]⟩ [⟨"a", "s"⟩] = (.ok (), t') ∧
    load t' ⟨.relative, ["c.json"]⟩ =
      .error (.unreadable ⟨.relative, ["c.json"]⟩ (.file (.of .denied "c.json"))) := by
  have hdone : (store ⟨.dir [("c.json", .file [] 0o200)], [], 0o022⟩ ⟨.relative, ["c.json"]⟩
      [⟨"a", "s"⟩]).1 = .ok () := by decide +kernel
  refine ⟨_, Prod.mk.eta.symm.trans (congrArg (·, _) hdone), ?_⟩
  decide +kernel

/-- The entries that results make, one for each that has a summary. -/
def entriesOf (results : List Annotation) : List Entry :=
  results.filterMap fun a => a.outcome.summary?.map fun s => ⟨a.path, s⟩

/-- The entries of the results, and behind them the former ones under other keys. -/
def renewed (prune : Bool) (results : List Annotation) (former : Index) : Index :=
  let made := ofEntries (entriesOf results)
  made ++ if prune then [] else former.filter fun e => e.1 ∉ Keyed.keys made

theorem foldl_enter_eq_ofEntries (results : List Annotation) :
    results.foldl enter [] = ofEntries (entriesOf results) := by
  rw [ofEntries, ← Keyed.foldl_set_eq_latest, List.foldl_map, entriesOf, List.foldl_filterMap]
  congr
  funext index a
  rw [enter]
  cases a.outcome.summary? <;> rfl

theorem foldl_setDefault_eq_filter (made : Index) {former : Index}
    (h : (Keyed.keys former).Nodup) :
    former.foldl (fun index e => Keyed.setDefault index e.1 e.2) made =
      made ++ former.filter fun e => e.1 ∉ Keyed.keys made := by
  induction former generalizing made with
  | nil => simp
  | cons e r ih =>
    obtain ⟨hfresh, hrest⟩ := List.nodup_cons.mp h
    by_cases hmem : e.1 ∈ Keyed.keys made
    · rw [List.foldl_cons, Keyed.setDefault_of_mem hmem, ih made hrest]
      simp [hmem]
    · have hkeys : Keyed.keys (made ++ [(e.1, e.2)]) = Keyed.keys made ++ [e.1] := by
        simp [Keyed.keys]
      have hother : r.filter (fun x => x.1 ∉ Keyed.keys made ++ [e.1]) =
          r.filter fun x => x.1 ∉ Keyed.keys made := by
        apply List.filter_congr
        intro x hx
        have hne : x.1 ≠ e.1 := fun he => hfresh (he ▸ List.mem_map_of_mem hx)
        simp [hne]
      rw [List.foldl_cons, Keyed.setDefault_of_not_mem hmem, ih _ hrest, hkeys, hother]
      simp [hmem]

theorem compile_eq_renewed (prune : Bool) (results : List Annotation) {former : Index}
    (h : (Keyed.keys former).Nodup) :
    compile prune results former = renewed prune results former := by
  rw [compile, renewed, foldl_enter_eq_ofEntries]
  cases prune with
  | true => simp
  | false => simpa using foldl_setDefault_eq_filter _ h

theorem keys_ofEntries (entries : List Entry) :
    Keyed.keys (ofEntries entries) = (entries.map Entry.path).eraseDups := by
  rw [ofEntries, Keyed.keys_latest, Keyed.keys, List.map_map]
  rfl

theorem keys_ofFields {fields : Keyed Json} {index : Index} (h : ofFields fields = .ok index) :
    Keyed.keys index = Keyed.keys fields := by
  induction fields generalizing index with
  | nil =>
    rw [← Except.ok.inj h]
    rfl
  | cons field r ih =>
    obtain ⟨key, value⟩ := field
    rw [ofFields] at h
    cases hentry : entryOf key value with
    | error f => simp [hentry] at h
    | ok entry =>
      cases hrest : ofFields r with
      | error f => simp [hentry, hrest] at h
      | ok rest =>
        simp only [hentry, hrest, Except.ok.injEq] at h
        rw [← h]
        exact congrArg (key :: ·) (ih hrest)

theorem nodup_keys_load {index : Index} {found : Bool} (h : load t path = .ok (index, found)) :
    (Keyed.keys index).Nodup := by
  unfold load at h
  split at h
  · simp at h
  · rw [← (Prod.mk.inj (Except.ok.inj h)).1]
    exact List.nodup_nil
  · split at h
    · simp at h
    · split at h
      · simp at h
      · simp at h
      · rename_i v hread
        cases v with
        | obj fields =>
          rw [ofJson] at h
          split at h
          · simp at h
          · rename_i hfields
            rw [← (Prod.mk.inj (Except.ok.inj h)).1, keys_ofFields hfields]
            exact Json.nodup_keys_of_distinct (Json.distinct_of_read hread)
        | _ => simp [ofJson] at h

end Synopsis.Index
