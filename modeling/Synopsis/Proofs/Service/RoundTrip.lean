import Synopsis.Proofs.Service.Undo
import Synopsis.Proofs.Service.Independence
import Synopsis.Proofs.Text.Breaks
import Synopsis.Proofs.Tree.Atomic

namespace Synopsis

open Text

namespace Source

variable {raw : Text} {s : Source}

theorem content_mk_splitLines (c : Text) (b : LineBreak) :
    (⟨splitLines c, b⟩ : Source).content = c := joinLines_splitLines c

theorem text_ofText_iff_not_isMixed : (ofText raw).text = raw ↔ ¬ IsMixed raw :=
  text_ofText_iff.trans not_isMixed_iff.symm

theorem content_ofText_text_iff : (ofText s.text).content = s.content ↔
    s.lineBreak = .crlf ∨ ¬ HasPair s.content.toList := by
  rw [content_ofText, text, LineBreak.undo_apply_iff]

/-- The returns that are added to a content can always be encoded. -/
theorem fault?_text_iff {e : Encoding} (hreturn : e.holds '\r' = true) :
    e.fault? s.text = none ↔ e.fault? s.content = none := by
  rw [Encoding.fault?_eq_none_iff, Encoding.fault?_eq_none_iff]
  constructor
  · intro h c hc
    exact h c (LineBreak.mem_apply_of_mem s.lineBreak hc)
  · intro h c hc
    rcases LineBreak.mem_of_mem_apply hc with rfl | hc
    · exact hreturn
    · exact h c hc

end Source

namespace Tree

variable {t t' : Tree} {p : Path} {text : Text}

/-- A file may come to lie at a path, and there is a free name for the one that is written beside
it. -/
def HasRoom (t : Tree) (p : Path) : Prop := (∃ loc, t.Takes p loc) ∧
  ∃ n < 10000, t.IsFree (t.temporary p n) ∧ ∀ m < n, t.IsUsed (t.temporary p m)

/-- To write the text that a file has changes nothing, its mode included. -/
theorem replaceText_self (hread : t.readExact p = .ok text)
    (hwrite : t.replaceText p text = (.ok (), t')) : t' = t := by
  obtain ⟨loc, htakes, rfl⟩ := replaceText_takes hwrite
  obtain ⟨loc', content, mode, hloc, hitem, -, hdecode⟩ := readExact_eq_ok_iff.mp hread
  obtain rfl : loc = loc' := htakes.eq_destination.trans (locate_eq_destination hloc).symm
  obtain ⟨rfl, -⟩ := Utf8.decode_eq_ok_iff.mp hdecode
  exact withFile_of_item? hitem

/-- No file is there, and the mask would keep the owner of a new one from reading it. -/
def Masks (t : Tree) (p : Path) : Prop :=
  t.top.item? (t.destination p) = none ∧ Node.mayRead t.newMode = false

/-- A file that is written has the mode of the one that was there, or else what the mask leaves. -/
theorem look_of_replaceText (hwrite : t.replaceText p text = (.ok (), t')) :
    ∃ mode, t'.look p = .ok (.file (Utf8.encode text) mode) ∧
      (Node.mayRead mode = true ∨ t.Masks p ∨ ∃ content, t.look p = .ok (.file content mode)) := by
  refine ⟨_, look_replaceText hwrite, ?_⟩
  obtain ⟨loc, htakes, -⟩ := replaceText_takes hwrite
  rw [Masks, ← htakes.eq_destination]
  cases hitem : t.top.item? loc with
  | none =>
    rw [modeAt_of_new hitem]
    cases Node.mayRead t.newMode <;> simp
  | some item =>
    cases item with
    | dir => exact absurd hitem htakes.free
    | file content mode =>
      refine .inr (.inr ⟨content, ?_⟩)
      rw [modeAt_of_item? hitem, look, htakes.locate, hitem]
      simp only [Option.isSome_some, if_true, Node.item?_eq_file_iff.mp hitem]

end Tree

namespace Service

open Source

variable {α σ : Type} {sv : Service α σ} {path : Text} {file : Path} {t : Tree}
  {s s' : Session α σ}

/-- The failure of a look at a file whose mode keeps its owner from reading it. -/
def forbidden (path : Text) (file : Path) : Failure :=
  .unreadable path (.file (.of .denied file.text))

theorem read_of_look {content : List UInt8} {mode : Nat} (hplace : sv.place path = .ok file)
    (hlook : t.look file = .ok (.file content mode)) (hmode : Node.mayRead mode = false) :
    sv.read t path = .error (forbidden path file) := by
  simp [read, hplace, Tree.readExact, Tree.readBytes, hlook, hmode, forbidden]

theorem write_done_iff (source : Source) : (write path file source s).1 = .ok () ↔
    Encoding.utf8.fault? source.content = none ∧ s.tree.HasRoom file := by
  rw [write_eq, Tree.mapError_eq_ok_iff, Tree.replaceText_done_iff,
    fault?_text_iff (by decide), Tree.HasRoom]

/-- What was read is the same after it was written back, unless line breaks are mixed. -/
theorem write_of_read {source : Source} {raw : Text} (hraw : s.tree.readExact file = .ok raw)
    (hread : sv.read s.tree path = .ok (file, source))
    (hwrite : write path file source s = (.ok (), s')) :
    (s'.tree.readExact file = .ok raw ↔ ¬ IsMixed raw) ∧ (¬ IsMixed raw → s' = s) := by
  have hreplace := write_ok hwrite
  have hback := readExact_of_write hread hreplace
  obtain ⟨-, raw', hraw', rfl⟩ := read_eq_ok_iff.mp hread
  obtain rfl : raw = raw' := Except.ok.inj (hraw.symm.trans hraw')
  rw [← text_ofText_iff_not_isMixed, hback, Except.ok.injEq]
  refine ⟨Iff.rfl, fun hsame => ?_⟩
  rw [hsame] at hreplace
  have hself := Tree.replaceText_self hraw hreplace
  rw [write_eq, hsame, hreplace, hself] at hwrite
  exact (Prod.mk.inj hwrite).2.symm

/-- What was written can be read, unless the file could not be read before, or is a new one that the
mask hides. -/
theorem read_of_written {source : Source} (hplace : sv.place path = .ok file)
    (hwrite : write path file source s = (.ok (), s')) :
    sv.read s'.tree path = .ok (file, .ofText source.text) ∨
      sv.read s'.tree path = .error (forbidden path file) ∧
        (sv.read s.tree path = .error (forbidden path file) ∨ s.tree.Masks file) := by
  have hreplace := write_ok hwrite
  have hholds := (Tree.replaceText_eq_ok_iff.mp hreplace).1
  obtain ⟨mode, hlook, hmay⟩ := Tree.look_of_replaceText hreplace
  cases hmode : Node.mayRead mode with
  | true =>
    left
    refine read_eq_ok_iff.mpr ⟨hplace, _, ?_, rfl⟩
    rw [Tree.readExact_eq_ok_iff_readBytes, Tree.readBytes, hlook]
    simp [hmode, hholds]
  | false =>
    refine .inr ⟨read_of_look hplace hlook hmode, ?_⟩
    obtain hmay | hmasks | ⟨content, hbefore⟩ := hmay
    · simp [hmode] at hmay
    · exact .inr hmasks
    · exact .inl (read_of_look hplace hbefore hmode)

/-- Where line breaks are the same after a conversion and its inverse: for texts by themselves, for
a file that is written back as it was read, and for a file that is read after a content was written
to it. Nothing but a text that cannot be encoded or the want of room keeps a content from being
written, and nothing but the mode that the file had, or the mask if there was none, keeps it from
being read. -/
theorem read_write_spec (hplace : sv.place path = .ok file) (s : Session α σ) :
    (∀ raw, (ofText raw).text = raw ↔ ¬ IsMixed raw) ∧
    (∀ content b, (ofText (⟨splitLines content, b⟩ : Source).text).content = content ↔
      b = .crlf ∨ ¬ HasPair content.toList) ∧
    (∀ source, (write path file source s).1 = .ok () ↔
      Encoding.utf8.fault? source.content = none ∧ s.tree.HasRoom file) ∧
    (∀ raw source s', s.tree.readExact file = .ok raw →
      sv.read s.tree path = .ok (file, source) → write path file source s = (.ok (), s') →
        (s'.tree.readExact file = .ok raw ↔ ¬ IsMixed raw) ∧ (¬ IsMixed raw → s' = s)) ∧
    ∀ content b s', write path file ⟨splitLines content, b⟩ s = (.ok (), s') →
      (∃ back, sv.read s'.tree path = .ok (file, back) ∧
        (back.content = content ↔ b = .crlf ∨ ¬ HasPair content.toList)) ∨
      sv.read s'.tree path = .error (forbidden path file) ∧
        (sv.read s.tree path = .error (forbidden path file) ∨ s.tree.Masks file) := by
  have hcontent (content : Text) (b : LineBreak) :
      (ofText (⟨splitLines content, b⟩ : Source).text).content = content ↔
        b = .crlf ∨ ¬ HasPair content.toList := by
    have hiff := @content_ofText_text_iff ⟨splitLines content, b⟩
    rwa [content_mk_splitLines] at hiff
  refine ⟨fun raw => text_ofText_iff_not_isMixed, hcontent, fun source => write_done_iff source,
    fun raw source s' hraw hread hwrite => write_of_read hraw hread hwrite, ?_⟩
  intro content b s' hwrite
  refine (read_of_written hplace hwrite).imp_left fun hread => ?_
  exact ⟨_, hread, hcontent content b⟩

/-- A return in front of a pair, and a line feed alone: the file is not the same when it was written
back. A pair in a content is lost with line feeds and kept with pairs. -/
theorem read_write_lone : ∃ (source lost kept : Source) (s₁ s₂ s₃ : Session Unit Unit),
    let s := lone "a.ts" "x\r\r\ny\n"
    let file : Path := ⟨.relative, ["a.ts"]⟩
    (always "s").read s.tree "a.ts" = .ok (file, source) ∧
    write "a.ts" file source s = (.ok (), s₁) ∧
    s₁.tree.readExact file ≠ .ok "x\r\r\ny\n" ∧
    write "a.ts" file ⟨splitLines "x\r\n", .lf⟩ s = (.ok (), s₂) ∧
    (always "s").read s₂.tree "a.ts" = .ok (file, lost) ∧ lost.content ≠ "x\r\n" ∧
    write "a.ts" file ⟨splitLines "x\r\n", .crlf⟩ s = (.ok (), s₃) ∧
    (always "s").read s₃.tree "a.ts" = .ok (file, kept) ∧ kept.content = "x\r\n" := by
  have hread : (always "s").read (lone "a.ts" "x\r\r\ny\n").tree "a.ts" =
      .ok (⟨.relative, ["a.ts"]⟩, ofText "x\r\r\ny\n") := by decide +kernel
  have hraw : (lone "a.ts" "x\r\r\ny\n").tree.readExact ⟨.relative, ["a.ts"]⟩ =
      .ok "x\r\r\ny\n" := by decide +kernel
  have hdone (source : Source) (hholds : (write "a.ts" ⟨.relative, ["a.ts"]⟩ source
      (lone "a.ts" "x\r\r\ny\n")).1 = .ok ()) := Prod.fst_eq_iff.mp hholds
  have hback := hdone (ofText "x\r\r\ny\n") (by decide +kernel)
  have hfeeds := hdone ⟨splitLines "x\r\n", .lf⟩ (by decide +kernel)
  have hpairs := hdone ⟨splitLines "x\r\n", .crlf⟩ (by decide +kernel)
  have hmixed : IsMixed "x\r\r\ny\n" := isMixed_iff.mpr (by decide)
  have hpair : HasPair ("x\r\n" : Text).toList := hasCrlf_iff.mp (by decide)
  have hmay : ¬ ((always "s").read (lone "a.ts" "x\r\r\ny\n").tree "a.ts" =
      .error (forbidden "a.ts" ⟨.relative, ["a.ts"]⟩) ∨
        (lone "a.ts" "x\r\r\ny\n").tree.Masks ⟨.relative, ["a.ts"]⟩) := by
    rintro (hforbidden | ⟨hnone, -⟩)
    · simp [hread] at hforbidden
    · cases hnone
  obtain ⟨-, -, -, hsame, hcontent⟩ := read_write_spec (read_eq_ok_iff.mp hread).1
    (lone "a.ts" "x\r\r\ny\n")
  have hdiffers := (hsame _ _ _ hraw hread hback).1
  obtain ⟨lost, hlost, hloses⟩ :=
    (hcontent _ _ _ hfeeds).resolve_right fun hboth => hmay hboth.2
  obtain ⟨kept, hkept, hkeeps⟩ :=
    (hcontent _ _ _ hpairs).resolve_right fun hboth => hmay hboth.2
  refine ⟨_, lost, kept, _, _, _, hread, hback, fun h => hdiffers.mp h hmixed, hfeeds, hlost,
    fun h => ?_, hpairs, hkept, hkeeps.mpr (.inl rfl)⟩
  exact (hloses.mp h).elim (by decide) fun hnone => hnone hpair

end Service

end Synopsis
