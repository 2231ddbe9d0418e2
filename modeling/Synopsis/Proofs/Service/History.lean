import Synopsis.Proofs.Block.Single
import Synopsis.Proofs.Service.Annotate

namespace Synopsis

namespace Source

open Block

variable {d : Dialect} {original : List Text} {s : Source}

/-- A file without lines is read as one empty line. -/
theorem lines_ofText_of_nil (h : s.lines = []) : (ofText s.text).lines = [""] := by
  obtain ⟨lines, lineBreak⟩ := s
  simp only at h
  subst h
  cases lineBreak <;> rfl

theorem holdsOnly_annotate (hd : d.Lawful) (hs : s.Stable) {summary : Text}
    (hr : ('\r' : Rune) ∉ summary.toList) (h : HoldsNone d original (remove d s.lines)) :
    HoldsOnly d original summary (ofText (s.annotate d summary).text).lines := by
  rw [lines_ofText_text (stable_annotate hd hs hr)]
  exact h.place hd summary

theorem holdsNone_strip (hd : d.Lawful) (hs : s.Stable) {stripped : Source}
    (hstrip : s.strip? d = some stripped) (h : HoldsNone d original stripped.lines) :
    HoldsNone d original (ofText stripped.text).lines := by
  obtain ⟨lines, hlines, rfl⟩ := Option.map_eq_some_iff.mp hstrip
  by_cases hne : lines = []
  · have hempty : filled [] = filled [""] := by decide
    rw [lines_ofText_of_nil hne]
    subst hne
    refine ⟨?_, ?_, h.keeps.trans (.of_filled_eq hempty)⟩
    · simpa using hd.header_ne_empty
    · simpa using hd.footer_ne_empty
  · rwa [lines_ofText_text (hs.of_sublist hne (strip?_sublist hd.header_ne_footer hlines))]

end Source

namespace Service

open Block

variable {α σ : Type}

/-- A call that concerns a file: with or without force, and whatever the index knows. -/
inductive Call where
  | annotate (force : Bool) (known : Index)
  | strip

/-- A session, and the summary that was last generated in it. -/
structure Course (α σ : Type) where
  session : Session α σ
  last : Option Text

def forcing (sv : Service α σ) (force : Bool) : Service α σ :=
  { sv with settings := { sv.settings with force } }

def perform (sv : Service α σ) (path : Text) (c : Course α σ) : Call → Course α σ
  | .annotate force known =>
    match (sv.forcing force).annotate known path c.session with
    | (.ok ⟨_, .generated summary⟩, s) => ⟨s, some summary⟩
    | (_, s) => ⟨s, c.last⟩
  | .strip => ⟨(sv.strip path c.session).2, c.last⟩

/-- What has become of a file with the lines `original`. -/
def Holds (sv : Service α σ) (path : Text) (d : Dialect) (file : Path) (original : List Text)
    (c : Course α σ) : Prop :=
  ∃ source, sv.read c.session.tree path = .ok (file, source) ∧
    (HoldsNone d original source.lines ∨
      ∃ summary, c.last = some summary ∧ HoldsOnly d original summary source.lines)

variable {sv : Service α σ} {path : Text} {d : Dialect} {file : Path} {original : List Text}
  {c : Course α σ}

/-- Where the tree is the same, so is what has become of the file. -/
theorem Holds.of_tree {s : Session α σ} (h : Holds sv path d file original c)
    (htree : s.tree = c.session.tree) : Holds sv path d file original ⟨s, c.last⟩ := by
  obtain ⟨source, hread, hlines⟩ := h
  have hread' : sv.read s.tree path = .ok (file, source) := by
    rw [htree]
    exact hread
  exact ⟨source, hread', hlines⟩

theorem Holds.remove {source : Source} (hd : d.Lawful)
    (h : HoldsNone d original source.lines ∨
      ∃ summary, c.last = some summary ∧ HoldsOnly d original summary source.lines) :
    HoldsNone d original (Block.remove d source.lines) := by
  rcases h with h | ⟨summary, -, h⟩
  · rwa [h.remove hd]
  · exact h.remove hd

/-- A file that is annotated holds the new summary alone. -/
theorem Holds.annotated (hd : d.Lawful) (h : Holds sv path d file original c) {source : Source}
    {summary : Text} {s : Session α σ}
    (hread : sv.read c.session.tree path = .ok (file, source))
    (hreply : ('\r' : Rune) ∉ summary.toList)
    (hwrite : c.session.tree.replaceText file (source.annotate d summary).text =
      (.ok (), s.tree)) : Holds sv path d file original ⟨s, some summary⟩ := by
  obtain ⟨source', hread', hlines⟩ := h
  rw [hread, Except.ok.injEq, Prod.mk.injEq] at hread'
  obtain ⟨-, rfl⟩ := hread'
  have honly := Source.holdsOnly_annotate hd (stable_read hread) hreply (Holds.remove hd hlines)
  exact ⟨_, read_of_write hread hwrite, .inr ⟨summary, rfl, honly⟩⟩

/-- A file that is stripped holds no block: there was just one. -/
theorem Holds.stripped (hd : d.Lawful) (h : Holds sv path d file original c)
    {source stripped : Source} {s : Session α σ}
    (hread : sv.read c.session.tree path = .ok (file, source))
    (hstrip : source.strip? d = some stripped)
    (hwrite : c.session.tree.replaceText file stripped.text = (.ok (), s.tree)) :
    Holds sv path d file original ⟨s, c.last⟩ := by
  obtain ⟨source', hread', hlines⟩ := h
  rw [hread, Except.ok.injEq, Prod.mk.injEq] at hread'
  obtain ⟨-, rfl⟩ := hread'
  have hnone : HoldsNone d original stripped.lines := by
    obtain ⟨lines, hcut, rfl⟩ := Option.map_eq_some_iff.mp hstrip
    rcases hlines with hnone | ⟨summary, -, honly⟩
    · rw [Block.strip?, hnone.cut? hd] at hcut
      simp at hcut
    · obtain ⟨lines', hcut', hnone⟩ := honly.strip? hd
      rw [hcut, Option.some.injEq] at hcut'
      rwa [hcut']
  have hkept := Source.holdsNone_strip hd (stable_read hread) hstrip hnone
  exact ⟨_, read_of_write hread hwrite, .inl hkept⟩

/-- One call, whatever comes of it. -/
theorem Holds.perform (hembed : sv.embedding? path = some d)
    (hreply : ∀ summary, sv.Replies summary → ('\r' : Rune) ∉ summary.toList)
    (h : Holds sv path d file original c) (call : Call) :
    Holds sv path d file original (sv.perform path c call) := by
  have hext := ofExtension?_of_embedding? hembed
  have hd := Dialect.lawful_of_ofExtension? hext
  obtain ⟨source, hread, -⟩ := id h
  cases call with
  | annotate force known =>
    have hspec := annotate_spec (sv.forcing force) known path c.session
    rw [Service.perform]
    cases hcall : (sv.forcing force).annotate known path c.session with
    | mk result s =>
      rw [hcall] at hspec
      generalize htree : s.tree = t at hspec
      cases hspec with
      | skipped hno => exact h.of_tree htree
      | cached hyes summary hknown => exact h.of_tree htree
      | embedded hyes file' source' hread' summary hfound => exact h.of_tree htree
      | indexed hyes file' source' hread' summary hsummary hout =>
        have hin : (sv.forcing force).embedding? path = some d := hembed
        simp [hin] at hout
      | written hyes file' source' hread' hnone summary hsummary d' hin t' hwrite =>
        -- the file that was read is the one that is written, and in the dialect of its type
        have hsame : sv.read c.session.tree path = .ok (file', source') := hread'
        rw [hread, Except.ok.injEq, Prod.mk.injEq] at hsame
        obtain ⟨rfl, rfl⟩ := hsame
        have hdialect : sv.embedding? path = some d' := hin
        rw [hembed, Option.some.injEq] at hdialect
        subst hdialect
        rw [← htree] at hwrite
        exact h.annotated hd hread (hreply summary hsummary) hwrite
      | failed f hplace => exact h.of_tree htree
  | strip =>
    have hspec := strip_spec sv path c.session
    rw [Service.perform]
    cases hcall : sv.strip path c.session with
    | mk result s =>
      change Holds sv path d file original ⟨s, c.last⟩
      rw [hcall] at hspec
      generalize htree : s.tree = t at hspec
      cases hspec with
      | none => exact h.of_tree htree
      | written d' hd' file' source' hread' stripped hstrip t' hwrite =>
        rw [hread, Except.ok.injEq, Prod.mk.injEq] at hread'
        obtain ⟨rfl, rfl⟩ := hread'
        rw [hext, Option.some.injEq] at hd'
        subst hd'
        rw [← htree] at hwrite
        exact h.stripped hd hread hstrip hwrite
      | failed f => exact h.of_tree htree

/-- No line is lost and no block is left behind, however long the history. -/
theorem holds_of_history (hembed : sv.embedding? path = some d) {s : Session α σ}
    {source : Source} (hread : sv.read s.tree path = .ok (file, source))
    (hheader : d.header ∉ source.lines) (hfooter : d.footer ∉ source.lines)
    (hreply : ∀ summary, sv.Replies summary → ('\r' : Rune) ∉ summary.toList) (calls : List Call) :
    Holds sv path d file source.lines (calls.foldl (sv.perform path) ⟨s, none⟩) := by
  have hrun (c : Course α σ) (hc : Holds sv path d file source.lines c) :
      Holds sv path d file source.lines (calls.foldl (sv.perform path) c) := by
    induction calls generalizing c with
    | nil => exact hc
    | cons call r ih => exact ih _ (hc.perform hembed hreply call)
  exact hrun _ ⟨source, hread, .inl ⟨hheader, hfooter, .refl _⟩⟩

theorem holds_of_history_lone : (always "s").embedding? "a.ts" = some .script ∧
    (always "s").read (lone "a.ts" "x").tree "a.ts" = .ok (⟨.relative, ["a.ts"]⟩, ⟨["x"], .lf⟩) ∧
    Holds (always "s") "a.ts" .script ⟨.relative, ["a.ts"]⟩ ["x"]
      ([Call.annotate false [], .strip, .annotate true [], .annotate true []].foldl
        ((always "s").perform "a.ts") ⟨lone "a.ts" "x", none⟩) := by
  have hembed : (always "s").embedding? "a.ts" = some .script := by decide +kernel
  have hread : (always "s").read (lone "a.ts" "x").tree "a.ts" =
      .ok (⟨.relative, ["a.ts"]⟩, ⟨["x"], .lf⟩) := by decide +kernel
  refine ⟨hembed, hread, holds_of_history hembed hread (by decide) (by decide) ?_ _⟩
  intro summary hsummary
  rw [replies_always_iff.mp hsummary]
  decide

end Service

end Synopsis
