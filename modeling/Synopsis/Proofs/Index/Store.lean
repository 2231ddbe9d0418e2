import Synopsis.Index.Store
import Synopsis.Proofs.Index.Document
import Synopsis.Proofs.Tree.Directories
import Synopsis.Proofs.Tree.Replace

namespace Synopsis.Index

variable {t t' : Tree} {path : Path} {entries : List Entry}

theorem store_eq_ok_iff : store t path entries = (.ok (), t') ↔ ∃ mid : Tree,
    t.makeDirs path.parent = (.ok (), mid) ∧
      mid.replaceText path (documentText entries) = (.ok (), t') := by
  rw [store]
  cases t.makeDirs path.parent with
  | mk done mid => cases done <;> simp

/-- Whether a document that is written to a path may be read: one that is there already keeps its
mode, and a new one has what the mask leaves. -/
def MayLoad (t : Tree) (path : Path) : Prop := Node.mayRead (t.modeAt (t.destination path)) = true

theorem MayLoad.spares {changed : Location → Prop} (h : MayLoad t path)
    (hg : Tree.Spares changed t t') (hp : ¬ changed (t.destination path)) : MayLoad t' path := by
  rw [MayLoad, Tree.destination_of_here hg.here, Tree.modeAt_congr hg.mask (hg.file _ hp)]
  exact h

theorem mayLoad_of_readExact {raw : Text} (h : t.readExact path = .ok raw) :
    MayLoad t path := by
  obtain ⟨loc, content, mode, hloc, hitem, hmay, -⟩ := Tree.readExact_eq_ok_iff.mp h
  rw [MayLoad, ← Tree.locate_eq_destination hloc, Tree.modeAt_of_item? hitem]
  exact hmay

/-- An index that was loaded may be loaded. Only where none was found, because the way to its file
is not there yet, is there something to be asked of the file. -/
theorem mayLoad_of_load {index : Index} {found : Bool} (h : load t path = .ok (index, found))
    (habsent : ∀ empty, load t path = .ok (empty, false) → MayLoad t path) : MayLoad t path := by
  cases found with
  | false => exact habsent index h
  | true =>
    unfold load at h
    split at h
    · simp at h
    · simp at h
    · cases hraw : t.readExact path with
      | error f => simp [Tree.readText, hraw, Except.map] at h
      | ok raw => exact mayLoad_of_readExact hraw

/-- The document is replaced in a tree in which the way to it is made, and keeps its mode. -/
theorem look_store (h : store t path entries = (.ok (), t')) :
    t'.look path = .ok (.file (Utf8.encode (documentText entries))
      (t.modeAt (t.destination path))) := by
  obtain ⟨mid, hdirs, hwrite⟩ := store_eq_ok_iff.mp h
  have hgrows := Tree.makeDirs_grows hdirs
  rw [Tree.look_replaceText hwrite, Tree.destination_of_here hgrows.here,
    Tree.modeAt_congr hgrows.mask (hgrows.file _ id)]

theorem fault?_of_store (h : store t path entries = (.ok (), t')) :
    Text.Encoding.utf8.fault? (documentText entries) = none := by
  obtain ⟨mid, -, hwrite⟩ := store_eq_ok_iff.mp h
  exact (Tree.replaceText_eq_ok_iff.mp hwrite).1

theorem isFile_store (h : store t path entries = (.ok (), t')) : t'.isFile path = .ok true := by
  rw [Tree.isFile, Tree.look?, look_store h]
  rfl

theorem readExact_store (h : store t path entries = (.ok (), t')) : t'.readExact path =
    if Node.mayRead (t.modeAt (t.destination path)) then
      .ok (documentText entries)
    else .error (.file (.of .denied path.text)) := by
  rw [Tree.readExact, Tree.readBytes, look_store h]
  by_cases hread : Node.mayRead (t.modeAt (t.destination path)) = true
  · simp only [hread, if_true, Utf8.decode_encode (fault?_of_store h)]
    rfl
  · simp only [hread, if_false, Bool.false_eq_true]

theorem readExact_store_of_mayLoad (h : store t path entries = (.ok (), t'))
    (hread : MayLoad t path) : t'.readExact path = .ok (documentText entries) := by
  rw [readExact_store h]
  exact if_pos hread

theorem load_store (h : store t path entries = (.ok (), t')) (hread : MayLoad t path) :
    load t' path = .ok ((summaries entries).map fun e => (e.1, ⟨e.1, e.2⟩), true) := by
  have htext : t'.readText path = .ok (documentText entries) := by
    rw [Tree.readText, readExact_store_of_mayLoad h hread, Except.map,
      Text.lfOfAny_of_not_mem (return_not_mem_documentText entries), Text.ofList_toList]
  simp only [load, isFile_store h, htext, read_documentText, ofJson, ofFields_map]

theorem store_again (h : store t path entries = (.ok (), t')) :
    store t' path entries = (.ok (), t') := by
  obtain ⟨mid, hdirs, hwrite⟩ := store_eq_ok_iff.mp h
  have hspares := Tree.replaceText_spares hwrite
  have hparent := Tree.isDir_extends hspares.here hspares.more (Tree.isDir_makeDirs hdirs)
  exact store_eq_ok_iff.mpr ⟨t', Tree.makeDirs_of_isDir hparent, Tree.replaceText_again hwrite⟩

theorem store_spares (h : store t path entries = (.ok (), t')) :
    Tree.Spares (· = t.destination path) t t' := by
  obtain ⟨mid, hdirs, hwrite⟩ := store_eq_ok_iff.mp h
  have hgrows := Tree.makeDirs_grows hdirs
  have hspares := Tree.replaceText_spares hwrite
  rw [Tree.destination_of_here hgrows.here] at hspares
  exact (hgrows.mono fun _ hfalse => hfalse.elim).trans hspares

/-- A document that cannot be stored has at most had directories made for it. -/
theorem store_error {f : WriteFault} (h : store t path entries = (.error f, t')) :
    Tree.Grows t t' := by
  rw [store] at h
  cases hdirs : t.makeDirs path.parent with
  | mk done mid =>
    have hgrows := Tree.makeDirs_grows hdirs
    cases done with
    | error e =>
      simp only [hdirs, Prod.mk.injEq] at h
      rwa [← h.2]
    | ok _ =>
      simp only [hdirs] at h
      rwa [Tree.replaceText_error h]

end Synopsis.Index
