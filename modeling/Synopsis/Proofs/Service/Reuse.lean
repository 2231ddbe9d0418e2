import Synopsis.Proofs.Service.Policy
import Synopsis.Settings.Loading

namespace Synopsis.Service

variable {α σ : Type} {sv : Service α σ} {known : Index} {path : Text} {e : Entry}

/-- A file that is to be annotated, and whose summary is in the index and is never written into the
file. -/
structure KeptApart (sv : Service α σ) (known : Index) (path : Text) (e : Entry) : Prop where
  wanted : Path.extension path ∈ sv.settings.extensions
  apart : sv.embedding? path = none
  entry : Keyed.get? known path = some e
  summary : e.summary ≠ ""

theorem KeptApart.prepare_of_excluded (h : sv.KeptApart known path e)
    (hexcluded : Path.extension path ∈ sv.settings.exclusions) (t : Tree) :
    sv.prepare known path t = .inl (.ok ⟨path, .cached e.summary⟩, [.indexReused path]) := by
  have hyes : sv.isSupported path = true := by simpa [isSupported] using h.wanted
  have hknown : sv.reusable? known path = some e.summary := by
    simp [reusable?, isExcluded, hexcluded, Index.summary?, h.entry, h.summary]
  simp [prepare, hyes, hknown]

/-- A type without a dialect has no block that could be found in the file. -/
theorem KeptApart.unsummarized (h : sv.KeptApart known path e)
    (hnot : Path.extension path ∉ sv.settings.exclusions) {t : Tree} {file : Path} {raw : Text}
    (hplace : sv.place path = .ok file) (hread : t.readExact file = .ok raw) :
    sv.Unsummarized known path t raw where
  wanted := h.wanted
  unknown := fun hreusable => hnot hreusable.1
  readable := ⟨file, hplace, Tree.readExact_eq_ok_iff_readBytes.mp hread⟩
  bare := by
    rintro ⟨-, d, body, hd, -⟩
    have hin : sv.embedding? path ≠ none := embedding?_ne_none_iff.mpr ⟨by simp [hd], hnot⟩
    exact hin h.apart

theorem annotate_ne_cached (hnot : Path.extension path ∉ sv.settings.exclusions)
    (s : Session α σ) (summary : Text) :
    (sv.annotate known path s).1 ≠ .ok ⟨path, .cached summary⟩ := by
  intro hcached
  have hspec := annotate_spec sv known path s
  rw [hcached] at hspec
  generalize (sv.annotate known path s).2.tree = t at hspec
  cases hspec with
  | cached _ _ hknown =>
    have hnone : sv.reusable? known path = none :=
      reusable?_eq_none_iff.mpr fun hreusable => hnot hreusable.1
    rw [hnone] at hknown
    cases hknown

/-- Where the type is excluded, the summary of the index is the result, and nothing is asked or
overwritten. Where it is not, the summary of the index is never the result: if the file can be read
and there is a summarizer, it is asked, and what it answers is the result. -/
theorem reuse_of_keptApart (h : sv.KeptApart known path e) (s : Session α σ) :
    (Path.extension path ∈ sv.settings.exclusions →
      sv.annotate known path s =
          (.ok ⟨path, .cached e.summary⟩, s.note (.indexReused path)) ∧
        sv.deeds known path s = []) ∧
    (Path.extension path ∉ sv.settings.exclusions →
      (∀ summary, (sv.annotate known path s).1 ≠ .ok ⟨path, .cached summary⟩) ∧
      ∀ file raw, sv.place path = .ok file →
        s.tree.readExact file = .ok raw → sv.CanSummon s →
        ∃ answer, sv.deeds known path s = [.asked path (Source.ofText raw).content answer] ∧
          (sv.annotate known path s).1 = answer.map fun summary => ⟨path, .generated summary⟩) := by
  have hgoes := proceeds sv known path s
  generalize sv.deeds known path s = deeds at hgoes ⊢
  generalize (sv.annotate known path s).2.tree = t at hgoes
  refine ⟨fun hexcluded => ?_, fun hnot => ⟨annotate_ne_cached hnot s, ?_⟩⟩
  · have hprep := h.prepare_of_excluded hexcluded s.tree
    refine ⟨annotate_of_inl hprep, ?_⟩
    generalize (sv.annotate known path s).1 = result at hgoes
    cases hgoes with
    | idle => rfl
    | unanswered _ _ hprep' | indexed _ _ hprep' | embedding _ _ hprep' =>
      rw [hprep] at hprep'
      cases hprep'
  · intro file raw hplace hread hcan
    obtain ⟨file', hprep⟩ := (h.unsummarized hnot hplace hread).prepare
    generalize (sv.annotate known path s).1 = result at hgoes ⊢
    have hsource {other : Path} {source : Source}
        (hprep' : sv.prepare known path s.tree = .inr (other, source)) :
        source = .ofText raw := by
      rw [hprep, Sum.inr.injEq, Prod.mk.injEq] at hprep'
      exact hprep'.2.symm
    cases hgoes with
    | idle hno => exact absurd hcan (hno _ _ hprep)
    | unanswered _ _ hprep' _ f => exact ⟨.error f, by rw [hsource hprep'], rfl⟩
    | indexed _ _ hprep' _ summary => exact ⟨.ok summary, by rw [hsource hprep'], rfl⟩
    | embedding _ _ _ _ _ _ hin =>
      rw [h.apart] at hin
      cases hin

/-- A type that is excluded. -/
theorem reuse_of_keptApart_excluded :
    (always "s").KeptApart [("a.json", ⟨"a.json", "old"⟩)] "a.json" ⟨"a.json", "old"⟩ ∧
      ((always "s").annotate [("a.json", ⟨"a.json", "old"⟩)] "a.json" (lone "a.json" "x")).1 =
        .ok ⟨"a.json", .cached "old"⟩ := by
  have hapart : (always "s").KeptApart [("a.json", ⟨"a.json", "old"⟩)] "a.json"
      ⟨"a.json", "old"⟩ :=
    ⟨by decide +kernel, by decide +kernel, by decide +kernel, by decide⟩
  have hreuse := (reuse_of_keptApart hapart (lone "a.json" "x")).1 (by decide +kernel)
  exact ⟨hapart, congrArg Prod.fst hreuse.1⟩

/-- Settings with a type that has no dialect and is not excluded: its summary is made again,
although the index has it. -/
theorem not_reuse_of_keptApart :
    ∃ settings, Settings.load (always "s").host (lone "a.py" "x").tree (.ofText "/")
        [("extensions", .list [.text ".py"])] none = .ok settings ∧
      settings.force = false ∧
      let sv : Service Unit Unit := { always "s" with settings }
      sv.KeptApart [("a.py", ⟨"a.py", "old"⟩)] "a.py" ⟨"a.py", "old"⟩ ∧
        (sv.annotate [("a.py", ⟨"a.py", "old"⟩)] "a.py" (lone "a.py" "x")).1 =
          .ok ⟨"a.py", .generated "s"⟩ ∧
        sv.deeds [("a.py", ⟨"a.py", "old"⟩)] "a.py" (lone "a.py" "x") =
          [.asked "a.py" "x" (.ok "s")] := by
  refine ⟨{ Settings.standard with root := .ofText "/", extensions := [".py"] }, ?_, rfl,
    ⟨by decide +kernel, by decide +kernel, by decide +kernel, by decide⟩, by decide +kernel,
    by decide +kernel⟩
  rfl

end Synopsis.Service
