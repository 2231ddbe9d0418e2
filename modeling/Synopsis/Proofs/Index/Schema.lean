import Synopsis.Proofs.Index.Latest
import Synopsis.Proofs.Json.Reading
import Synopsis.Proofs.Text.Encoding
import Synopsis.Proofs.Tree.Atomic

namespace Synopsis

/-- What says that a file which is there holds no index. -/
def IndexFault.IsReadError : IndexFault → Prop
  | .unreadable .. => True
  | .notJson _ => True
  | .flawed .. => True
  | _ => False

namespace Index

variable {t t' : Tree} {path : Path} {content : List UInt8} {mode : Nat} {text : Text}
  {index : Index} {entries : List Entry} {found : Bool}

/-- A field of a document and the entry that it stands for. What else there is in the field does not
matter. -/
inductive Describes : Text × Json → Text × Entry → Prop where
  | intro {key summary : Text} {fields : Keyed Json}
    (hpath : Keyed.get? fields "filePath" = some (.str key))
    (hsummary : Keyed.get? fields "summary" = some (.str summary)) :
    Describes (key, .obj fields) (key, ⟨key, summary⟩)

/-- The text that some bytes are. There are no bytes for half of a character. -/
def IsText (content : List UInt8) (text : Text) : Prop :=
  content = Utf8.encode text ∧ Text.Encoding.utf8.fault? text = none

/-- The index that the content of a file holds. -/
def Holds (content : List UInt8) (index : Index) : Prop := ∃ text fields,
  IsText content text ∧ Json.Written text (.obj fields) ∧ List.Forall₂ Describes fields index

theorem entryOf_eq_ok_iff {key : Text} {value : Json} {e : Entry} :
    entryOf key value = .ok e ↔ Describes (key, value) (key, e) := by
  constructor
  · intro h
    unfold entryOf at h
    split at h
    · rename_i fields
      split at h
      · simp at h
      · simp at h
      · rename_i own summary hpath hsummary
        split at h
        · rename_i hkey
          obtain rfl := Except.ok.inj h
          obtain ⟨v, hv, hown⟩ := Option.bind_eq_some_iff.mp hpath
          obtain ⟨w, hw, htext⟩ := Option.bind_eq_some_iff.mp hsummary
          rw [Json.str?_eq_some_iff] at hown htext
          subst hown htext hkey
          exact .intro hv hw
        · simp at h
    · simp at h
  · intro h
    cases h with
    | intro hpath hsummary =>
      simp [entryOf, Json.field?, hpath, hsummary, Json.str?]

theorem ofFields_eq_ok_iff {fields : Keyed Json} :
    ofFields fields = .ok index ↔ List.Forall₂ Describes fields index := by
  induction fields generalizing index with
  | nil => simp [ofFields, eq_comm]
  | cons field r ih =>
    obtain ⟨key, value⟩ := field
    constructor
    · intro h
      rw [ofFields] at h
      cases hentry : entryOf key value with
      | error f => simp [hentry] at h
      | ok e =>
        cases hrest : ofFields r with
        | error f => simp [hentry, hrest] at h
        | ok rest =>
          simp only [hentry, hrest, Except.ok.injEq] at h
          rw [← h]
          exact .cons (entryOf_eq_ok_iff.mp hentry) (ih.mp hrest)
    · intro h
      cases h with
      | cons hfield hrest =>
        cases hfield with
        | @intro key summary fields hpath hsummary =>
          have hentry := entryOf_eq_ok_iff.mpr (.intro hpath hsummary)
          rw [ofFields, hentry, ih.mpr hrest]

theorem ofJson_eq_ok_iff {v : Json} :
    ofJson v = .ok index ↔ ∃ fields, v = .obj fields ∧ List.Forall₂ Describes fields index := by
  cases v with
  | obj fields => simp [ofJson, ofFields_eq_ok_iff]
  | _ => simp [ofJson]

/-- However its lines end, the text of a file is read as it stands there. -/
theorem read_lfOfAny (text : Text) :
    Json.read (.ofList (Text.lfOfAny text.toList)) = Json.read text := by
  rw [Json.read, Json.read, Text.toList_ofList, Json.scan_lfOfAny]

theorem load_of_not_isFile (h : t.isFile path = .ok false) : load t path = .ok ([], false) := by
  rw [load, h]

/-- What the content of a file comes to. -/
def ofContent (path : Path) (content : List UInt8) : Except IndexFault (Index × Bool) :=
  match Utf8.decode content with
  | .error f => .error (.unreadable path (.encoding f))
  | .ok text =>
    match Json.read text with
    | .error .malformed => .error (.notJson path)
    | .error f => .error (.excessive f)
    | .ok v =>
      match ofJson v with
      | .error flaw => .error (.flawed path flaw)
      | .ok index => .ok (index, true)

theorem load_of_look (h : t.look path = .ok (.file content mode)) : load t path =
    if Node.mayRead mode then ofContent path content
    else .error (.unreadable path (.file (.of .denied path.text))) := by
  have hfile : t.isFile path = .ok true := Tree.isFile_eq_true_iff.mpr ⟨content, mode, h⟩
  by_cases hread : Node.mayRead mode = true
  · rw [if_pos hread]
    cases hdecode : Utf8.decode content with
    | error f =>
      have htext : t.readText path = .error (.encoding f) := by
        rw [Tree.readText, Tree.readExact, Tree.readBytes, h]
        simp only [hread, if_true, hdecode]
        rfl
      simp only [load, hfile, htext, ofContent, hdecode]
    | ok text =>
      have htext : t.readText path = .ok (.ofList (Text.lfOfAny text.toList)) := by
        rw [Tree.readText, Tree.readExact, Tree.readBytes, h]
        simp only [hread, if_true, hdecode]
        rfl
      cases hvalue : Json.read text with
      | error f =>
        cases f <;> simp only [load, hfile, htext, read_lfOfAny, ofContent, hdecode, hvalue]
      | ok v =>
        cases hmade : ofJson v <;>
          simp only [load, hfile, htext, read_lfOfAny, ofContent, hdecode, hvalue, hmade]
  · have htext : t.readText path = .error (.file (.of .denied path.text)) := by
      rw [Tree.readText, Tree.readExact, Tree.readBytes, h]
      simp only [hread, Bool.false_eq_true, if_false]
      rfl
    rw [if_neg hread]
    simp only [load, hfile, htext]

theorem ofContent_eq_ok_iff :
    ofContent path content = .ok (index, found) ↔ found = true ∧ Holds content index := by
  constructor
  · intro h
    unfold ofContent at h
    split at h
    · simp at h
    · rename_i text hdecode
      split at h
      · simp at h
      · simp at h
      · rename_i v hread
        split at h
        · simp at h
        · rename_i made hmade
          obtain ⟨rfl, rfl⟩ := Prod.mk.inj (Except.ok.inj h)
          obtain ⟨fields, rfl, hfields⟩ := ofJson_eq_ok_iff.mp hmade
          exact ⟨rfl, text, fields, Utf8.decode_eq_ok_iff.mp hdecode,
            Json.read_eq_ok_iff.mp hread, hfields⟩
  · rintro ⟨rfl, text, fields, ⟨rfl, hholds⟩, hwritten, hfields⟩
    have hmade : ofJson (.obj fields) = .ok index := ofJson_eq_ok_iff.mpr ⟨fields, rfl, hfields⟩
    simp only [ofContent, Utf8.decode_encode hholds, Json.read_eq_ok_iff.mpr hwritten, hmade]

theorem ofContent_eq_error {f : IndexFault} (h : ofContent path content = .error f) :
    f.IsReadError ∨ ∃ text limit,
      f = .excessive limit ∧ IsText content text ∧ Json.Exceeds text limit := by
  unfold ofContent at h
  split at h
  · rw [← Except.error.inj h]
    exact .inl trivial
  · rename_i text hdecode
    split at h
    · rw [← Except.error.inj h]
      exact .inl trivial
    · rename_i limit hlimit hread
      refine .inr ⟨text, limit, (Except.error.inj h).symm, Utf8.decode_eq_ok_iff.mp hdecode, ?_⟩
      exact (Json.exceeds_of_read hread).resolve_left hlimit
    · split at h
      · rw [← Except.error.inj h]
        exact .inl trivial
      · simp at h

/-- A document can be written at a path: the directory is there or can be made, no directory is in
the way, and there is a free name for the file that is written first. -/
def Admits (t : Tree) (path : Path) : Prop := ∃ mid, t.makeDirs path.parent = (.ok (), mid) ∧
  (∃ loc, mid.Takes path loc) ∧ ∃ n < 10000, mid.IsFree (mid.temporary path n) ∧
    ∀ m < n, mid.IsUsed (mid.temporary path m)

/-- No key and no summary holds half of a character. -/
def Encodable (index : Index) : Prop := ∀ e ∈ index,
  Text.Encoding.utf8.fault? e.1 = none ∧ Text.Encoding.utf8.fault? e.2.summary = none

theorem all_escapeChar (c : Rune) :
    (Json.escapeChar c).all Text.Encoding.utf8.holds = Text.Encoding.utf8.holds c := by
  unfold Json.escapeChar
  split
  all_goals try decide
  split
  · rename_i hcontrol
    have hholds : Text.Encoding.utf8.holds c = true := by
      cases c with
      | char d => rfl
      | half n =>
        simp only [Rune.toNat] at hcontrol
        omega
    have hdigits : ((Utf8.hexDigits 4 c.toNat).toList.all Text.Encoding.utf8.holds) = true := by
      generalize c.toNat = n at hcontrol
      interval_cases n <;> decide
    rw [hholds, List.all_append, hdigits]
    decide
  · simp

theorem all_quotedText (s : Text) : (Json.quotedText s).toList.all Text.Encoding.utf8.holds =
    s.toList.all Text.Encoding.utf8.holds := by
  have hquote : Text.Encoding.utf8.holds '"' = true := by decide
  have hescape : (s.toList.flatMap Json.escapeChar).all Text.Encoding.utf8.holds =
      s.toList.all Text.Encoding.utf8.holds := by
    simp only [List.all_flatMap, all_escapeChar]
  simp [Json.quotedText, hquote, hescape]

theorem all_entryText (e : Text × Text) :
    (entryText e).toList.all Text.Encoding.utf8.holds =
      (e.1.toList.all Text.Encoding.utf8.holds && e.2.toList.all Text.Encoding.utf8.holds) := by
  have hfront : ("  " : Text).toList.all Text.Encoding.utf8.holds = true := by decide
  have hpath : (": \x7b\n    \"filePath\": " : Text).toList.all Text.Encoding.utf8.holds =
      true := by decide
  have hsummary : (",\n    \"summary\": " : Text).toList.all Text.Encoding.utf8.holds = true := by
    decide
  have hclose : ("\n  \x7d" : Text).toList.all Text.Encoding.utf8.holds = true := by decide
  simp only [entryText, Text.toList_append, List.all_append, all_quotedText, hfront, hpath,
    hsummary, hclose, Bool.true_and, Bool.and_true, Bool.and_self]

theorem all_documentText (entries : List Entry) :
    (documentText entries).toList.all Text.Encoding.utf8.holds = (summaries entries).all fun e =>
      e.1.toList.all Text.Encoding.utf8.holds && e.2.toList.all Text.Encoding.utf8.holds := by
  rw [documentText]
  cases summaries entries with
  | nil => decide
  | cons e es =>
    have hopen : ("\x7b\n" : Text).toList.all Text.Encoding.utf8.holds = true := by decide
    have hcomma : (",\n" : Text).toList.all Text.Encoding.utf8.holds = true := by decide
    have hclose : ("\n\x7d\n" : Text).toList.all Text.Encoding.utf8.holds = true := by decide
    simp only [Text.toList_append, toList_intercalate_entryText, List.all_append,
      List.all_flatMap, all_entryText, hopen, hcomma, hclose, Bool.true_and, Bool.and_true,
      List.all_cons]

theorem fault?_documentText (h : WellKeyed index) (hnodup : (Keyed.keys index).Nodup) :
    Text.Encoding.utf8.fault? (documentText (index.map Prod.snd)) = none ↔ Encodable index := by
  have hall {s : Text} : Text.Encoding.utf8.fault? s = none ↔
      s.toList.all Text.Encoding.utf8.holds = true := by
    rw [Text.Encoding.fault?_eq_none_iff, List.all_eq_true]
  have hindex := summaries_map_snd h hnodup
  simp only [Encodable, hall, all_documentText, List.all_eq_true, Bool.and_eq_true]
  constructor
  · intro hentries e he
    rw [← hindex] at he
    obtain ⟨x, hx, rfl⟩ := List.mem_map.mp he
    exact hentries x hx
  · intro hentries x hx
    exact hentries _ (hindex ▸ List.mem_map_of_mem hx)

theorem store_done_iff : (store t path entries).1 = .ok () ↔
    Text.Encoding.utf8.fault? (documentText entries) = none ∧ Admits t path := by
  rw [store, Admits]
  cases hdirs : t.makeDirs path.parent with
  | mk done mid =>
    cases done with
    | error f => simp
    | ok _ =>
      simp only [Tree.replaceText_done_iff, Prod.mk.injEq, true_and]
      constructor
      · rintro ⟨hholds, hplace, hfree⟩
        exact ⟨hholds, mid, rfl, hplace, hfree⟩
      · rintro ⟨hholds, _, rfl, hplace, hfree⟩
        exact ⟨hholds, hplace, hfree⟩

/-- An index that was loaded is stored as it is: it is loaded again, to store it once more changes
nothing, and only what cannot be encoded and where there is no room keep it from being stored. -/
structure Keeps (t : Tree) (path : Path) (index : Index) : Prop where
  done_iff : (store t path (index.map Prod.snd)).1 = .ok () ↔ Encodable index ∧ Admits t path
  load (t' : Tree) : store t path (index.map Prod.snd) = (.ok (), t') →
    Index.load t' path = .ok (index, true)
  again (t' : Tree) : store t path (index.map Prod.snd) = (.ok (), t') →
    store t' path (index.map Prod.snd) = (.ok (), t')

theorem keeps_of_load (h : load t path = .ok (index, found))
    (habsent : found = false → MayLoad t path) : Keeps t path index where
  done_iff := by
    rw [store_done_iff, fault?_documentText (wellKeyed_load h) (nodup_keys_load h)]
  load t' hstore := by
    have hmay : MayLoad t path := mayLoad_of_load h fun empty hempty => by
      rw [h, Except.ok.injEq, Prod.mk.injEq] at hempty
      exact habsent hempty.2
    exact load_store_index (wellKeyed_load h) (nodup_keys_load h) hstore hmay
  again t' hstore := store_again hstore

/-- Where the system can tell what there is at a path, no file means no entries, and a file is
loaded just if it may be read and holds an index, and as this one. Everything else is an error of
the file, or a text beyond a limit of the reader. What was loaded is kept by storing it; only where
there was no file, because the way to it has yet to be made, one that comes to light has to be
readable. -/
theorem schema_spec (hlook : t.isFile path = .ok found) :
    (found = false → load t path = .ok ([], false)) ∧
    (found = true → ∃ content mode, t.look path = .ok (.file content mode) ∧
      (∀ index there, load t path = .ok (index, there) ↔
        there = true ∧ Node.mayRead mode = true ∧ Holds content index) ∧
      ∀ f, load t path = .error f → f.IsReadError ∨ Node.mayRead mode = true ∧ ∃ text limit,
        f = .excessive limit ∧ IsText content text ∧ Json.Exceeds text limit) ∧
    ∀ index, load t path = .ok (index, found) → (found = false → MayLoad t path) →
      Keeps t path index := by
  refine ⟨?_, ?_, fun index hload habsent => keeps_of_load hload habsent⟩
  · rintro rfl
    exact load_of_not_isFile hlook
  · rintro rfl
    obtain ⟨content, mode, hfile⟩ := Tree.isFile_eq_true_iff.mp hlook
    refine ⟨content, mode, hfile, fun index there => ?_, fun f hf => ?_⟩
    · rw [load_of_look hfile]
      by_cases hread : Node.mayRead mode = true
      · simp [hread, ofContent_eq_ok_iff]
      · simp [hread]
    · rw [load_of_look hfile] at hf
      split at hf
      · rename_i hread
        exact (ofContent_eq_error hf).imp_right fun hexceeds => ⟨hread, hexceeds⟩
      · rw [← Except.error.inj hf]
        exact .inl trivial

/-- A key that comes twice, and fields that say nothing about a file. -/
def repeated : Text :=
  "\x7b\"a\": 1, \"b\": \x7b\"filePath\": \"b\", \"summary\": \"\"\x7d,\r\n" ++
    "\"a\": \x7b\"x\": [null, -0], \"summary\": \"\\u0073\", \"filePath\": \"a\"\x7d\x7d"

theorem schema_spec_repeated :
    Holds (Utf8.encode repeated) [("a", ⟨"a", "s"⟩), ("b", ⟨"b", ""⟩)] ∧
    Keeps ⟨.dir [("c.json", .file (Utf8.encode repeated) 0o644)], [], 0o022⟩ ⟨.relative, ["c.json"]⟩
      [("a", ⟨"a", "s"⟩), ("b", ⟨"b", ""⟩)] := by
  have hfile : (⟨.dir [("c.json", .file (Utf8.encode repeated) 0o644)], [], 0o022⟩ : Tree).look
      ⟨.relative, ["c.json"]⟩ = .ok (.file (Utf8.encode repeated) 0o644) := rfl
  have hload : load ⟨.dir [("c.json", .file (Utf8.encode repeated) 0o644)], [], 0o022⟩
      ⟨.relative, ["c.json"]⟩ = .ok ([("a", ⟨"a", "s"⟩), ("b", ⟨"b", ""⟩)], true) := by
    have hholds : Text.Encoding.utf8.fault? repeated = none := by decide +kernel
    rw [load_of_look hfile, ofContent, Utf8.decode_encode hholds]
    decide +kernel
  obtain ⟨-, hfound, hkeeps⟩ := schema_spec (Tree.isFile_eq_true_iff.mpr ⟨_, _, hfile⟩)
  obtain ⟨content, mode, hlook, hiff, -⟩ := hfound rfl
  have hsame := Node.file.inj (Except.ok.inj (hfile.symm.trans hlook))
  have hholds := ((hiff _ _).mp hload).2.2
  rw [← hsame.1] at hholds
  exact ⟨hholds, hkeeps _ hload (by simp)⟩

/-- A file that holds an index and may not be read. -/
theorem not_load_of_holds : Holds (Utf8.encode "\x7b\x7d") [] ∧
    load ⟨.dir [("c.json", .file (Utf8.encode "\x7b\x7d") 0o200)], [], 0o022⟩
        ⟨.relative, ["c.json"]⟩ =
      .error (.unreadable ⟨.relative, ["c.json"]⟩ (.file (.of .denied "c.json"))) := by
  have hread : Json.Written "\x7b\x7d" (.obj []) := Json.read_eq_ok_iff.mp rfl
  exact ⟨⟨_, [], ⟨rfl, by decide +kernel⟩, hread, .nil⟩, by decide +kernel⟩

end Index

end Synopsis
