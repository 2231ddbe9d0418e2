import Mathlib.Data.Prod.Basic
import Synopsis.Proofs.Source
import Synopsis.Proofs.Tree.Replace
import Synopsis.Service.Basic

namespace Synopsis.Service

variable {α σ : Type} {sv : Service α σ} {known : Index} {path : Text} {file : Path}
  {source : Source} {s s' : Session α σ}

theorem read_eq_ok_iff {t : Tree} : sv.read t path = .ok (file, source) ↔
    sv.place path = .ok file ∧ ∃ raw, t.readExact file = .ok raw ∧ source = .ofText raw := by
  unfold read
  cases sv.place path with
  | error f => simp
  | ok p =>
    simp only [Except.ok.injEq]
    cases hread : t.readExact p with
    | ok raw =>
      simp only [Except.ok.injEq, Prod.mk.injEq]
      constructor
      · rintro ⟨rfl, rfl⟩
        exact ⟨rfl, raw, hread, rfl⟩
      · rintro ⟨rfl, raw', hraw, rfl⟩
        rw [hread, Except.ok.injEq] at hraw
        exact ⟨rfl, by rw [hraw]⟩
    | error f =>
      have hno : ¬ (p = file ∧ ∃ raw, t.readExact file = .ok raw ∧ source = .ofText raw) := by
        rintro ⟨rfl, raw, hraw, -⟩
        rw [hread] at hraw
        simp at hraw
      simp only [hno, iff_false]
      split <;> simp_all

theorem eq_of_read {t : Tree} {file' : Path} (hplace : sv.place path = .ok file)
    (hread : sv.read t path = .ok (file', source)) : file = file' :=
  Except.ok.inj (hplace.symm.trans (read_eq_ok_iff.mp hread).1)

theorem stable_read {t : Tree} (h : sv.read t path = .ok (file, source)) : source.Stable := by
  obtain ⟨-, raw, -, rfl⟩ := read_eq_ok_iff.mp h
  exact Source.stable_ofText raw

/-- What is read is a file, and its text is what is decoded of the content. -/
theorem item?_of_read {t : Tree} (h : sv.read t path = .ok (file, source)) :
    ∃ content mode, t.top.item? (t.destination file) = some (.file content mode) ∧
      ∃ raw, Utf8.decode content = .ok raw ∧ source = .ofText raw := by
  obtain ⟨-, raw, hexact, hsource⟩ := read_eq_ok_iff.mp h
  obtain ⟨loc, content, mode, hloc, hitem, -, hdec⟩ := Tree.readExact_eq_ok_iff.mp hexact
  exact ⟨content, mode, Tree.locate_eq_destination hloc ▸ hitem, raw, hdec, hsource⟩

/-- A failure that can be counted on is about a file that has a place. -/
theorem place_of_read_error {t : Tree} {f : Failure} (h : sv.read t path = .error f)
    (hpath : f.path?.isSome) : ∃ p, sv.place path = .ok p := by
  unfold read at h
  cases hplace : sv.place path with
  | ok p => exact ⟨p, rfl⟩
  | error e =>
    simp only [hplace, Except.error.injEq] at h
    subst h
    simp [Failure.path?] at hpath

theorem write_tree (path : Text) (file : Path) (source : Source) (s : Session α σ) :
    (write path file source s).2.tree = (s.tree.replaceText file source.text).2 := by
  unfold write
  rcases s.tree.replaceText file source.text with ⟨(f | f) | _, tree⟩ <;> rfl

theorem write_ok (h : write path file source s = (.ok (), s')) :
    s.tree.replaceText file source.text = (.ok (), s'.tree) := by
  unfold write at h
  cases hreplace : s.tree.replaceText file source.text with
  | mk done tree =>
    rw [hreplace] at h
    rcases done with (f | f) | _ <;> simp at h
    rw [← h]

theorem write_error {f : Failure} (h : write path file source s = (.error f, s')) :
    s'.tree = s.tree := by
  unfold write at h
  cases hreplace : s.tree.replaceText file source.text with
  | mk done tree =>
    rw [hreplace] at h
    cases done with
    | ok _ => simp at h
    | error e =>
      have htree := Tree.replaceText_error hreplace
      cases e with
      | file e =>
        simp only [Prod.mk.injEq] at h
        rw [← h.2, htree]
      | encoding e =>
        simp only [Prod.mk.injEq] at h
        rw [← h.2, htree]

/-- A file that was read and written holds what was written. -/
theorem readExact_of_write {t t' : Tree} {text : Text}
    (hread : sv.read t path = .ok (file, source))
    (hwrite : t.replaceText file text = (.ok (), t')) : t'.readExact file = .ok text := by
  obtain ⟨-, raw, hexact, -⟩ := read_eq_ok_iff.mp hread
  obtain ⟨loc, content, mode, hloc, hitem, hmay, -⟩ := Tree.readExact_eq_ok_iff.mp hexact
  apply Tree.readExact_replaceText hwrite
  rw [← Tree.locate_eq_destination hloc, Tree.modeAt_of_item? hitem]
  exact hmay

theorem read_of_write {t t' : Tree} {written : Source}
    (hread : sv.read t path = .ok (file, source))
    (hwrite : t.replaceText file written.text = (.ok (), t')) :
    sv.read t' path = .ok (file, .ofText written.text) :=
  read_eq_ok_iff.mpr ⟨(read_eq_ok_iff.mp hread).1, _, readExact_of_write hread hwrite, rfl⟩

theorem ofExtension?_of_embedding? {d : Dialect} (h : sv.embedding? path = some d) :
    Dialect.ofExtension? (Path.extension path) = some d := by
  unfold embedding? at h
  split at h
  · simp at h
  · exact h

theorem embedded?_eq (hforce : sv.settings.force = false) {d : Dialect}
    (hin : sv.embedding? path = some d) (source : Source) :
    sv.embedded? path source = source.summary? d := by
  rw [embedded?, hforce, ofExtension?_of_embedding? hin]
  rfl

theorem reusable?_of_embedding? {d : Dialect} (known : Index)
    (hin : sv.embedding? path = some d) : sv.reusable? known path = none := by
  unfold embedding? at hin
  split at hin
  · simp at hin
  · rename_i hout
    rw [reusable?, if_neg hout]

theorem summon_tree (sv : Service α σ) (s : Session α σ) : (sv.summon s).2.tree = s.tree := by
  unfold summon
  cases s.holding with
  | lent a => rfl
  | own a => rfl
  | none =>
    rcases sv.supply.build sv.settings s.tree s.outside with ⟨f | a, outside⟩ <;> rfl

/-- A text that the supply gives as a summary. -/
def Replies (sv : Service α σ) (summary : Text) : Prop :=
  ∃ a path content outside, (sv.supply.ask a path content outside).1.outcome = .ok summary

/-- What an answer comes to for a file. -/
def told (path : Text) : Except OracleFault Text → Except Failure Text
  | .ok summary => .ok summary
  | .error (.accident f) => .error (.accident f)
  | .error f => .error (.unanswered path f)

theorem told_eq_ok_iff {answer : Except OracleFault Text} {summary : Text} :
    told path answer = .ok summary ↔ answer = .ok summary := by
  cases answer with
  | ok text => simp [told]
  | error f => cases f <;> simp [told]

/-- A session in which a summarizer has been asked about a file. -/
def asking (sv : Service α σ) (a : α) (path : Text) (source : Source) (s : Session α σ) :
    Session α σ :=
  let (answer, outside) := sv.supply.ask a path source.content s.outside
  { s.record (.asked path source.content :: answer.events) with outside }

theorem generate_of_unbuilt {f : Failure} (h : sv.summon s = (.error f, s')) (path : Text)
    (source : Source) : sv.generate path source s = (.error f, s') := by
  rw [generate, h]

theorem generate_of_summon {a : α} (h : sv.summon s = (.ok a, s')) (path : Text)
    (source : Source) : sv.generate path source s =
      (told path (sv.supply.ask a path source.content s'.outside).1.outcome,
        sv.asking a path source s') := by
  rw [generate, h]
  simp only
  cases (sv.supply.ask a path source.content s'.outside).1.outcome with
  | ok summary => rfl
  | error f => cases f <;> rfl

theorem generate_tree (sv : Service α σ) (path : Text) (source : Source) (s : Session α σ) :
    (sv.generate path source s).2.tree = s.tree := by
  have hsummon := summon_tree sv s
  cases hs : sv.summon s with
  | mk found next =>
    rw [hs] at hsummon
    cases found with
    | error f =>
      rw [generate_of_unbuilt hs]
      exact hsummon
    | ok a =>
      rw [generate_of_summon hs]
      exact hsummon

theorem generate_ok {summary : Text} (h : sv.generate path source s = (.ok summary, s')) :
    sv.Replies summary := by
  cases hs : sv.summon s with
  | mk found next =>
    cases found with
    | error f => simp [generate_of_unbuilt hs] at h
    | ok a =>
      rw [generate_of_summon hs, Prod.mk.injEq, told_eq_ok_iff] at h
      exact ⟨a, path, source.content, next.outside, h.1⟩

/-- A summarizer is refused only where there is none and none can be built. -/
theorem summon_error {f : Failure} (h : sv.summon s = (.error f, s')) : s.holding = .none ∧
    ∃ why, (sv.supply.build sv.settings s.tree s.outside).1 = .error why ∧ f = .unbuilt why := by
  unfold summon at h
  cases hhold : s.holding with
  | lent a => simp [hhold] at h
  | own a => simp [hhold] at h
  | none =>
    rcases hmade : sv.supply.build sv.settings s.tree s.outside with ⟨why | a, outside⟩
    · simp only [hhold, hmade, Prod.mk.injEq, Except.error.injEq] at h
      exact ⟨rfl, why, rfl, h.1.symm⟩
    · simp [hhold, hmade] at h

theorem holding_of_summon {a : α} (h : sv.summon s = (.ok a, s')) : s'.holding ≠ .none := by
  unfold summon at h
  cases hhold : s.holding with
  | none =>
    rcases hmade : sv.supply.build sv.settings s.tree s.outside with ⟨why | b, outside⟩
    · simp [hhold, hmade] at h
    · simp only [hhold, hmade, Prod.mk.injEq] at h
      simp [← h.2]
  | _ =>
    simp only [hhold, Prod.mk.injEq] at h
    simp [← h.2, hhold]

theorem told_cases {answer : Except OracleFault Text} {f : Failure}
    (h : told path answer = .error f) :
    (∃ why, f = .unanswered path why) ∨ ∃ why, answer = .error (.accident why) := by
  cases answer with
  | ok text => cases h
  | error e =>
    cases e with
    | accident why => exact .inr ⟨why, rfl⟩
    | _ =>
      rw [← Except.error.inj h]
      exact .inl ⟨_, rfl⟩

/-- Asking for a summary fails under the path that was asked for, or else because there is no
summarizer or no answer that can be made out. -/
theorem generate_error {f : Failure} (h : (sv.generate path source s).1 = .error f) :
    f.path? = some path ∨
    (s.holding = .none ∧
      ∃ why, (sv.supply.build sv.settings s.tree s.outside).1 = .error why ∧ f = .unbuilt why) ∨
    ∃ why, f = .accident why := by
  cases hs : sv.summon s with
  | mk found next =>
    cases found with
    | error e =>
      rw [generate_of_unbuilt hs] at h
      obtain rfl : e = f := Except.error.inj h
      exact .inr (.inl (summon_error hs))
    | ok a =>
      rw [generate_of_summon hs] at h
      rcases told_cases h with ⟨why, rfl⟩ | ⟨why, hwhy⟩
      · exact .inl rfl
      · rw [hwhy] at h
        exact .inr (.inr ⟨why, (Except.error.inj h).symm⟩)

/-- What annotating comes to where no summary is asked for, with what is noted on it, or else the
file and the text that one is asked for. -/
def prepare (sv : Service α σ) (known : Index) (path : Text) (t : Tree) :
    (Except Failure Annotation × List Note) ⊕ (Path × Source) :=
  if !sv.isSupported path then .inl (.ok ⟨path, .skipped⟩, [.unsupported path])
  else
    match sv.reusable? known path with
    | some summary => .inl (.ok ⟨path, .cached summary⟩, [.indexReused path])
    | none =>
      match sv.read t path with
      | .error f => .inl (.error f, [])
      | .ok (file, source) =>
        match sv.embedded? path source with
        | some summary => .inl (.ok ⟨path, .embedded summary⟩, [.blockReused path])
        | none => .inr (file, source)

/-- What annotating a file comes to, once a summary was asked for. -/
def finish (sv : Service α σ) (path : Text) (file : Path) (source : Source) :
    Except Failure Text × Session α σ → Except Failure Annotation × Session α σ
  | (.error f, s) => (.error f, s)
  | (.ok summary, s) =>
    match sv.embedding? path with
    | none => (.ok ⟨path, .generated summary⟩, s.note (.indexedOnly path))
    | some d =>
      match write path file (source.annotate d summary) s with
      | (.error f, s) => (.error f, s)
      | (.ok (), s) => (.ok ⟨path, .generated summary⟩, s.note (.embedded path))

theorem annotate_eq (sv : Service α σ) (known : Index) (path : Text) (s : Session α σ) :
    sv.annotate known path s =
      match sv.prepare known path s.tree with
      | .inl (result, notes) => (result, s.record (notes.map .noted))
      | .inr (file, source) => sv.finish path file source (sv.generate path source s) := by
  unfold annotate prepare
  cases sv.isSupported path with
  | false => rfl
  | true =>
    cases sv.reusable? known path with
    | some summary => rfl
    | none =>
      cases sv.read s.tree path with
      | error f => simp [Session.record]
      | ok found =>
        obtain ⟨file, source⟩ := found
        simp only [Bool.not_true, Bool.false_eq_true, if_false]
        cases sv.embedded? path source with
        | some summary => rfl
        | none => rfl

section

variable {t t' : Tree} {result : Except Failure Annotation} {notes : List Note}

theorem annotate_of_inl (h : sv.prepare known path s.tree = .inl (result, notes)) :
    sv.annotate known path s = (result, s.record (notes.map .noted)) := by
  rw [annotate_eq, h]

theorem annotate_of_inr (h : sv.prepare known path s.tree = .inr (file, source)) :
    sv.annotate known path s = sv.finish path file source (sv.generate path source s) := by
  rw [annotate_eq, h]

/-- How far it is to go, and why. -/
inductive Prepares (sv : Service α σ) (known : Index) (path : Text) (t : Tree) :
    (Except Failure Annotation × List Note) ⊕ (Path × Source) → Prop where
  | skipped (hno : sv.isSupported path = false) :
    Prepares sv known path t (.inl (.ok ⟨path, .skipped⟩, [.unsupported path]))
  | cached (hyes : sv.isSupported path = true) (summary : Text)
    (hknown : sv.reusable? known path = some summary) :
    Prepares sv known path t (.inl (.ok ⟨path, .cached summary⟩, [.indexReused path]))
  | unread (f : Failure) (hread : sv.read t path = .error f) :
    Prepares sv known path t (.inl (.error f, []))
  | embedded (hyes : sv.isSupported path = true) (file : Path) (source : Source)
    (hread : sv.read t path = .ok (file, source)) (summary : Text)
    (hfound : sv.embedded? path source = some summary) :
    Prepares sv known path t (.inl (.ok ⟨path, .embedded summary⟩, [.blockReused path]))
  | asking (hyes : sv.isSupported path = true) (hknown : sv.reusable? known path = none)
    (file : Path) (source : Source) (hread : sv.read t path = .ok (file, source))
    (hnone : sv.embedded? path source = none) : Prepares sv known path t (.inr (file, source))

theorem prepare_spec (sv : Service α σ) (known : Index) (path : Text) (t : Tree) :
    Prepares sv known path t (sv.prepare known path t) := by
  unfold prepare
  cases hyes : sv.isSupported path with
  | false => exact .skipped hyes
  | true =>
    cases hknown : sv.reusable? known path with
    | some summary => exact .cached hyes summary hknown
    | none =>
      cases hread : sv.read t path with
      | error f => exact .unread f hread
      | ok found =>
        obtain ⟨file, source⟩ := found
        simp only [Bool.not_true, Bool.false_eq_true, if_false]
        cases hfound : sv.embedded? path source with
        | some summary => exact .embedded hyes file source hread summary hfound
        | none => exact .asking hyes hknown file source hread hfound

/-- A summary is asked for if the file is wanted and can be read, and no summary is at hand. -/
theorem prepare_eq_inr_iff : sv.prepare known path t = .inr (file, source) ↔
    sv.isSupported path = true ∧ sv.reusable? known path = none ∧
      sv.read t path = .ok (file, source) ∧ sv.embedded? path source = none := by
  constructor
  · intro h
    have hspec := prepare_spec sv known path t
    rw [h] at hspec
    cases hspec with
    | asking hyes hknown _ _ hread hnone => exact ⟨hyes, hknown, hread, hnone⟩
  · rintro ⟨hyes, hknown, hread, hnone⟩
    simp [prepare, hyes, hknown, hread, hnone]

/-- A failure without asking is that of reading the file. -/
theorem read_of_prepare {f : Failure} (h : sv.prepare known path t = .inl (.error f, notes)) :
    sv.read t path = .error f := by
  have hspec := prepare_spec sv known path t
  rw [h] at hspec
  cases hspec with
  | unread _ hread => exact hread

theorem prepare_congr (h : sv.read t' path = sv.read t path) (known : Index) :
    sv.prepare known path t' = sv.prepare known path t := by
  rw [prepare, prepare, h]

/-- A summary that is found in the file is all that is needed. -/
theorem annotate_of_embedded {summary : Text} (hyes : sv.isSupported path = true)
    (hknown : sv.reusable? known path = none) (hread : sv.read s.tree path = .ok (file, source))
    (hfound : sv.embedded? path source = some summary) :
    sv.annotate known path s = (.ok ⟨path, .embedded summary⟩, s.note (.blockReused path)) := by
  have hearly : sv.prepare known path s.tree =
      .inl (.ok ⟨path, .embedded summary⟩, [.blockReused path]) := by
    simp [prepare, hyes, hknown, hread, hfound]
  exact annotate_of_inl hearly

end

/-- What annotating a file comes to, and the tree that it leaves. -/
inductive Annotates (sv : Service α σ) (known : Index) (path : Text) (t : Tree) :
    Except Failure Annotation → Tree → Prop where
  | skipped (hno : sv.isSupported path = false) :
    Annotates sv known path t (.ok ⟨path, .skipped⟩) t
  | cached (hyes : sv.isSupported path = true) (summary : Text)
    (hknown : sv.reusable? known path = some summary) :
    Annotates sv known path t (.ok ⟨path, .cached summary⟩) t
  | embedded (hyes : sv.isSupported path = true) (file : Path) (source : Source)
    (hread : sv.read t path = .ok (file, source)) (summary : Text)
    (hfound : sv.embedded? path source = some summary) :
    Annotates sv known path t (.ok ⟨path, .embedded summary⟩) t
  | indexed (hyes : sv.isSupported path = true) (file : Path) (source : Source)
    (hread : sv.read t path = .ok (file, source)) (summary : Text)
    (hreply : sv.Replies summary) (hout : sv.embedding? path = none) :
    Annotates sv known path t (.ok ⟨path, .generated summary⟩) t
  | written (hyes : sv.isSupported path = true) (file : Path) (source : Source)
    (hread : sv.read t path = .ok (file, source)) (hnone : sv.embedded? path source = none)
    (summary : Text) (hreply : sv.Replies summary) (d : Dialect)
    (hin : sv.embedding? path = some d) (t' : Tree)
    (hwrite : t.replaceText file (source.annotate d summary).text = (.ok (), t')) :
    Annotates sv known path t (.ok ⟨path, .generated summary⟩) t'
  | failed (f : Failure) (hplace : f.path?.isSome → ∃ p, sv.place path = .ok p) :
    Annotates sv known path t (.error f) t

theorem Prepares.annotates {t : Tree} {result : Except Failure Annotation} {notes : List Note}
    (h : Prepares sv known path t (.inl (result, notes))) : Annotates sv known path t result t := by
  cases h with
  | skipped hno => exact .skipped hno
  | cached hyes summary hknown => exact .cached hyes summary hknown
  | unread f hread => exact .failed f (place_of_read_error hread)
  | embedded hyes file source hread summary hfound =>
    exact .embedded hyes file source hread summary hfound

/-- After an annotation the path is skipped, or its file is as before, or it holds the new summary
and nothing else has changed. -/
theorem annotate_spec (sv : Service α σ) (known : Index) (path : Text) (s : Session α σ) :
    Annotates sv known path s.tree (sv.annotate known path s).1
      (sv.annotate known path s).2.tree := by
  cases hprep : sv.prepare known path s.tree with
  | inl early =>
    have hearly := prepare_spec sv known path s.tree
    rw [hprep] at hearly
    rw [annotate_of_inl hprep]
    exact hearly.annotates
  | inr found =>
    obtain ⟨file, source⟩ := found
    obtain ⟨hyes, -, hread, hfound⟩ := prepare_eq_inr_iff.mp hprep
    have hplace := (read_eq_ok_iff.mp hread).1
    have htree := generate_tree sv path source s
    rw [annotate_of_inr hprep]
    cases hgen : sv.generate path source s with
    | mk answer asked =>
      rw [hgen] at htree
      change asked.tree = s.tree at htree
      cases answer with
      | error f =>
        rw [finish, htree]
        exact .failed f fun _ => ⟨file, hplace⟩
      | ok summary =>
        have hreply := generate_ok hgen
        unfold finish
        cases hin : sv.embedding? path with
        | none =>
          simp only [Session.note, Session.record]
          rw [htree]
          exact .indexed hyes file source hread summary hreply hin
        | some d =>
          simp only
          cases hwritten : write path file (source.annotate d summary) asked with
          | mk done last =>
            cases done with
            | error f =>
              simp only
              rw [write_error hwritten, htree]
              exact .failed f fun _ => ⟨file, hplace⟩
            | ok _ =>
              have hwrite := write_ok hwritten
              rw [htree] at hwrite
              exact .written hyes file source hread hfound summary hreply d hin _ hwrite

/-- What stripping a file comes to, and the tree that it leaves. -/
inductive Strips (sv : Service α σ) (path : Text) (t : Tree) : Except Failure Bool → Tree → Prop
  where
  | none : Strips sv path t (.ok false) t
  | written (d : Dialect) (hd : Dialect.ofExtension? (Path.extension path) = some d) (file : Path)
    (source : Source) (hread : sv.read t path = .ok (file, source)) (stripped : Source)
    (hstrip : source.strip? d = some stripped) (t' : Tree)
    (hwrite : t.replaceText file stripped.text = (.ok (), t')) :
    Strips sv path t (.ok true) t'
  | failed (f : Failure) : Strips sv path t (.error f) t

/-- A file for which a summary was generated has been read, so its bytes are those of a text. -/
theorem readExact_of_annotate {raw summary : Text} (hplace : sv.place path = .ok file)
    (hraw : s.tree.readBytes file = .ok (Utf8.encode raw))
    (hcall : sv.annotate known path s = (.ok ⟨path, .generated summary⟩, s')) :
    s.tree.readExact file = .ok raw := by
  have hread : ∃ source, sv.read s.tree path = .ok (file, source) := by
    have hspec := annotate_spec sv known path s
    rw [hcall] at hspec
    generalize htree : s'.tree = t at hspec
    cases hspec with
    | indexed _ file' source hread _ _ _ => exact ⟨source, eq_of_read hplace hread ▸ hread⟩
    | written _ file' source hread _ _ _ _ _ _ _ => exact ⟨source, eq_of_read hplace hread ▸ hread⟩
  obtain ⟨source, hread⟩ := hread
  obtain ⟨-, text, hexact, -⟩ := read_eq_ok_iff.mp hread
  exact Tree.readExact_of_readBytes hexact hraw

theorem strip_spec (sv : Service α σ) (path : Text) (s : Session α σ) :
    Strips sv path s.tree (sv.strip path s).1 (sv.strip path s).2.tree := by
  unfold strip
  cases hd : Dialect.ofExtension? (Path.extension path) with
  | none => exact .none
  | some d =>
    cases hread : sv.read s.tree path with
    | error f => exact .failed f
    | ok found =>
      obtain ⟨file, source⟩ := found
      simp only
      cases hstrip : source.strip? d with
      | none => exact .none
      | some stripped =>
        simp only
        cases hwritten : write path file stripped s with
        | mk done last =>
          cases done with
          | error f =>
            simp only
            rw [write_error hwritten]
            exact .failed f
          | ok _ =>
            have hwrite := write_ok hwritten
            exact .written d hd file source hread stripped hstrip _ hwrite

/-- A supply whose every answer is the same summary. -/
def Supply.always (reply : Text) : Supply Unit Unit where
  build _ _ w := (.ok (), w)
  ask _ _ _ w := (⟨.ok reply, []⟩, w)

def always (reply : Text) : Service Unit Unit where
  host := ⟨"/home", [], none, none, none, ⟨.root, []⟩, .notInstalled⟩
  settings := .standard
  index := ⟨.root, ["i.json"]⟩
  supply := Supply.always reply

/-- A tree with a single file in it. -/
def lone (name text : Text) : Session Unit Unit :=
  ⟨⟨.dir [(name, .file (Utf8.encode text) 0o644)], [], 0o022⟩, .none, (), []⟩

theorem replies_always_iff {reply summary : Text} :
    (always reply).Replies summary ↔ summary = reply := by
  simp [Replies, always, Supply.always, eq_comm]

end Synopsis.Service
