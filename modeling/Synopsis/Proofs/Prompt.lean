import Synopsis.Proofs.Service.Discovered
import Synopsis.Proofs.Settings.Refusal
import Synopsis.Proofs.Tree.Below
import Synopsis.Summarizer

namespace Synopsis

variable {name : Text} {p d : Path} {h : Host} {t : Tree}

/-- A text without a slash stands for one part, unless it is a single point. -/
theorem Path.ofText_of_slash_not_mem (hne : name ≠ "") (hslash : ('/' : Rune) ∉ name.toList) :
    Path.ofText name = ⟨.relative, if name = "." then [] else [name]⟩ := by
  have hanchor : Path.anchorOf name.toList = .relative := by
    unfold Path.anchorOf
    split <;> simp_all
  have hchars : name.toList ≠ [] := fun hnil => hne (Text.toList_inj.mp hnil)
  have hpoint : name.toList = [.char '.'] ↔ name = "." := by
    rw [← Text.toList_inj]
    rfl
  rw [Path.ofText, hanchor, Path.partsOf, Text.splitChars_of_not_mem hslash]
  by_cases hname : name = "."
  · simp [hname]
  · simp [hchars, hpoint, hname]

theorem Path.join_of_slash_not_mem (p : Path) (hne : name ≠ "")
    (hslash : ('/' : Rune) ∉ name.toList) :
    p.join (.ofText name) = ⟨p.anchor, p.parts ++ if name = "." then [] else [name]⟩ := by
  rw [Path.ofText_of_slash_not_mem hne hslash, Path.join, if_neg (by simp [Path.isAbsolute])]

theorem append_ending_ne {ending word : Text} (hending : ending ∈ ([".md", ".txt"] : List Text))
    (hword : word ∈ (["", ".", ".."] : List Text)) : name ++ ending ≠ word := by
  have hlong : ∀ ending ∈ ([".md", ".txt"] : List Text), 3 ≤ ending.length := by decide
  have hshort : ∀ word ∈ (["", ".", ".."] : List Text), word.length ≤ 2 := by decide
  intro heq
  have hlength := congrArg Text.length heq
  rw [Text.length_append] at hlength
  have hle := hlong ending hending
  have hle' := hshort word hword
  omega

/-- With an ending behind it, a text is a part of its own. -/
theorem Path.join_ending (p : Path) (hslash : ('/' : Rune) ∉ name.toList) (ending : Text)
    (hending : ending ∈ ([".md", ".txt"] : List Text)) :
    p.join (.ofText (name ++ ending)) = ⟨p.anchor, p.parts ++ [name ++ ending]⟩ := by
  have hplain : ∀ ending ∈ ([".md", ".txt"] : List Text), ('/' : Rune) ∉ ending.toList := by decide
  rw [Path.join_of_slash_not_mem p (append_ending_ne hending (by simp))
    (by simp [hslash, hplain ending hending]), if_neg (append_ending_ne hending (by simp))]

namespace Prompt

theorem mem_of_firstFile {ps : List Path} (hfirst : firstFile t ps = .ok (some p)) :
    p ∈ ps ∧ t.isFile p = .ok true := by
  induction ps with
  | nil => cases hfirst
  | cons q r ih =>
    rw [firstFile] at hfirst
    split at hfirst
    · cases hfirst
    · rename_i hfile
      obtain rfl := Option.some.inj (Except.ok.inj hfirst)
      exact ⟨List.mem_cons_self, hfile⟩
    · obtain ⟨hmem, hfile⟩ := ih hfirst
      exact ⟨List.mem_cons_of_mem _ hmem, hfile⟩

/-- What a name is found to stand for is a file: the one it names as a path, or one that it names in
a directory. -/
theorem mem_of_resolve {asPath : Path} {dirs : List Path}
    (hexpand : h.expand (.ofText name) = .ok asPath) (hres : resolve h t dirs name = .ok p) :
    (p = asPath ∨ ∃ d ∈ dirs, p ∈ variants d name) ∧ t.isFile p = .ok true := by
  simp only [resolve, hexpand] at hres
  split at hres
  · cases hres
  · rename_i found hfirst
    obtain rfl := Except.ok.inj hres
    obtain ⟨hmem, hfile⟩ := mem_of_firstFile hfirst
    exact ⟨by simpa using hmem, hfile⟩
  · cases hres

theorem name_of_mem_variants (hne : name ≠ "") (hslash : ('/' : Rune) ∉ name.toList)
    (hpoint : ('.' : Rune) ∈ name.toList) (hmem : p ∈ variants d name) :
    p = d ∧ name = "." ∨ p.name = name ∨ p.name = name ++ ".txt" := by
  have hlast (part : Text) : (Path.mk d.anchor (d.parts ++ [part])).name = part := by
    simp [Path.name]
  rw [variants, if_pos hpoint] at hmem
  rcases List.mem_cons.mp hmem with rfl | hplain
  · by_cases hname : name = "."
    · refine .inl ⟨?_, hname⟩
      have hjoin := d.join_of_slash_not_mem hne hslash
      rwa [if_pos hname, List.append_nil] at hjoin
    · refine .inr (.inl ?_)
      have hjoin := d.join_of_slash_not_mem hne hslash
      rw [if_neg hname] at hjoin
      exact (congrArg Path.name hjoin).trans (hlast name)
  · split at hplain
    · cases hplain
    · obtain rfl := List.mem_singleton.mp hplain
      have hjoin := d.join_ending hslash ".txt" (by simp)
      exact .inr (.inr ((congrArg Path.name hjoin).trans (hlast _)))

/-- The directory of the prompts of a project. -/
def projectDirectory (root : Path) : Path := root / Path.mk .relative [".autosummary", "prompts"]

theorem directories_project {root : Path} (hroot : ¬ root.BeginsAtHome) :
    directories h (some (projectDirectory root)) [] =
      .ok [projectDirectory root, h.bundledPrompts] := by
  have hown : ¬ (projectDirectory root).BeginsAtHome := by
    rintro ⟨hanchor, first, rest, hparts, htilde⟩
    have hjoin : projectDirectory root =
        ⟨root.anchor, root.parts ++ ([".autosummary", "prompts"] : List Text)⟩ := rfl
    rw [hjoin] at hanchor hparts
    cases hinner : root.parts with
    | nil =>
      simp only [hinner, List.nil_append, List.cons.injEq] at hparts
      obtain ⟨rfl, -⟩ := hparts
      exact absurd htilde (by decide)
    | cons part r =>
      simp only [hinner, List.cons_append, List.cons.injEq] at hparts
      obtain ⟨rfl, -⟩ := hparts
      exact hroot ⟨hanchor, part, r, hinner, htilde⟩
  simp only [directories, h.expand_of_not_beginsAtHome hown]
  rfl

/-- A name without a point that has a file with `.md` behind it is short enough to be looked at. -/
theorem isFile_of_markdown (hne : name ≠ "") (hslash : ('/' : Rune) ∉ name.toList)
    (hpoint : ('.' : Rune) ∉ name.toList)
    (hfile : t.isFile (d.join (.ofText (name ++ ".md"))) = .ok true) :
    ∃ found, t.isFile (.ofText name) = .ok found := by
  have hpoints : name ≠ "." ∧ name ≠ ".." := by
    constructor <;> rintro rfl <;> exact hpoint (by decide)
  obtain ⟨content, mode, hlook⟩ := Tree.isFile_eq_true_iff.mp hfile
  obtain ⟨loc, hlocate, -⟩ := Tree.look_eq_ok_iff.mp hlook
  rw [d.join_ending hslash ".md" (by simp)] at hlocate
  obtain ⟨hfree, hwalk⟩ := Tree.locate_eq_ok_iff.mp hlocate
  have hnameable : Nameable name :=
    .of_append ((Tree.obstacle?_eq_none_iff.mp hfree).1 (name ++ ".md") (by simp))
  have hshort : name.fileSize ≤ Tree.nameLimit := by
    rw [Tree.walk_append] at hwalk
    cases hmid : Tree.walk t.top (t.start ⟨d.anchor, d.parts ++ [name ++ ".md"]⟩) d.parts with
    | error e => simp [hmid, Except.bind] at hwalk
    | ok mid =>
      rw [hmid] at hwalk
      obtain ⟨next, henter, -⟩ := Tree.walk_cons_eq_ok_iff.mp hwalk
      have hup : name ++ ".md" ≠ ".." := append_ending_ne (by simp) (by simp)
      obtain ⟨hle, -⟩ := (Tree.enter_eq_ok_iff.mp henter).2.2.resolve_left hup
      rw [Text.fileSize_append] at hle
      omega
  have hproper : ∀ part ∈ [name], ProperName part := by
    intro part hpart
    obtain rfl := List.mem_singleton.mp hpart
    exact ⟨hne, hpoints.1, hpoints.2, hslash, hnameable, hshort⟩
  have hroom : (Path.mk .relative ([] ++ [name])).text.fileSize ≤ Tree.pathLimit := by
    have htext : (Path.mk .relative ([] ++ [name])).text = name := by
      simp [Path.text, Path.anchorText, ← Text.toList_inj]
    rw [htext]
    exact hshort.trans (by decide)
  have hbase : t.locate ⟨.relative, []⟩ = .ok t.here := rfl
  rw [Path.ofText_of_slash_not_mem hne hslash, if_neg hpoints.1]
  exact ⟨_, Tree.isFile_below hbase hproper hroom⟩

section Project

variable {root : Path} (hne : name ≠ "") (hslash : ('/' : Rune) ∉ name.toList)
  (htilde : name.toList.head? ≠ some (.char '~'))

include hne hslash htilde

theorem expand_name : h.expand (.ofText name) = .ok (.ofText name) := by
  apply h.expand_of_not_beginsAtHome
  rintro ⟨-, first, rest, hparts, hfirst⟩
  rw [Path.ofText_of_slash_not_mem hne hslash] at hparts
  by_cases hname : name = "."
  · simp [hname] at hparts
  · simp only [if_neg hname, List.cons.injEq] at hparts
    obtain ⟨rfl, -⟩ := hparts
    exact htilde hfirst

/-- A name without a point stands for the project's prompt of that name. -/
theorem resolve_of_plain {bundled : Path}
    (hfile : t.isFile (projectDirectory root / (name ++ ".md" : Text)) = .ok true)
    (hhere : t.isFile (.ofText name) ≠ .ok true) (hpoint : ('.' : Rune) ∉ name.toList) :
    resolve h t [projectDirectory root, bundled] name =
      .ok (projectDirectory root / (name ++ ".md" : Text)) := by
  obtain ⟨found, hfound⟩ := isFile_of_markdown hne hslash hpoint hfile
  have hnone : t.isFile (.ofText name) = .ok false := by
    cases found with
    | true => exact absurd hfound hhere
    | false => exact hfound
  have hfirst : t.isFile (projectDirectory root / Path.ofText (name ++ ".md")) = .ok true := hfile
  simp only [resolve, expand_name hne hslash htilde, firstFile, hnone, List.flatMap_cons, variants,
    if_neg hpoint, List.cons_append, hfirst]

/-- A name with a point in it does not: the paths that are tried have other names, unless the name
leads to the directories themselves. -/
theorem resolve_ne_of_point {bundled : Path}
    (hfile : t.isFile (projectDirectory root / (name ++ ".md" : Text)) = .ok true)
    (hbundled : t.isFile bundled ≠ .ok true) (hpoint : ('.' : Rune) ∈ name.toList) :
    resolve h t [projectDirectory root, bundled] name ≠
      .ok (projectDirectory root / (name ++ ".md" : Text)) := by
  intro hres
  obtain ⟨hmem, -⟩ := mem_of_resolve (expand_name hne hslash htilde) hres
  have hlast : (projectDirectory root / (name ++ ".md" : Text)).name = name ++ ".md" := by
    have hjoin := (projectDirectory root).join_ending hslash ".md" (by simp)
    exact (congrArg Path.name hjoin).trans (by simp [Path.name])
  have hempty : name ++ ".md" ≠ "" := append_ending_ne (by simp) (by simp)
  have hself : name ++ ".md" ≠ name := by simp [Text.append_right_eq_self]
  have hother : name ++ ".md" ≠ name ++ ".txt" := by simp [Text.append_right_inj]
  rcases hmem with hsame | ⟨d, hd, hvariant⟩
  · rw [hsame, Path.ofText_of_slash_not_mem hne hslash] at hlast
    by_cases hname : name = "."
    · rw [if_pos hname] at hlast
      exact hempty hlast.symm
    · rw [if_neg hname] at hlast
      exact hself hlast.symm
  · rcases name_of_mem_variants hne hslash hpoint hvariant with ⟨hsame, rfl⟩ | hname | hname
    · rcases List.mem_cons.mp hd with rfl | hd
      · have hprompts : (projectDirectory root).name = "prompts" := by
          simp [projectDirectory, HDiv.hDiv, Path.join, Path.isAbsolute, Path.name]
        rw [hsame, hprompts] at hlast
        exact absurd hlast (by decide)
      · obtain rfl := List.mem_singleton.mp hd
        exact hbundled (hsame ▸ hfile)
    · exact hself (hlast.symm.trans hname)
    · exact hother (hlast.symm.trans hname)

/-- A prompt of a project is found under its name, before those that come with the program, just if
the name has no point in it. -/
theorem resolve_project_iff (hroot : ¬ root.BeginsAtHome)
    (hfile : t.isFile (projectDirectory root / (name ++ ".md" : Text)) = .ok true)
    (hhere : t.isFile (.ofText name) ≠ .ok true)
    (hbundled : t.isFile h.bundledPrompts ≠ .ok true) :
    ∃ dirs, directories h (some (projectDirectory root)) [] = .ok dirs ∧
      (resolve h t dirs name = .ok (projectDirectory root / (name ++ ".md" : Text)) ↔
        ('.' : Rune) ∉ name.toList) :=
  ⟨_, directories_project hroot,
    fun hres hpoint => resolve_ne_of_point hne hslash htilde hfile hbundled hpoint hres,
    resolve_of_plain hne hslash htilde hfile hhere⟩

end Project

/-- What the project's prompt says is what its summarizer is told. -/
theorem build_of_plain {s : Settings} {content : Text} {client : Client} (w : Wire)
    (hne : s.prompt ≠ "") (hslash : ('/' : Rune) ∉ s.prompt.toList)
    (htilde : s.prompt.toList.head? ≠ some (.char '~')) (hpoint : ('.' : Rune) ∉ s.prompt.toList)
    (hroot : ¬ s.root.BeginsAtHome)
    (hfile : t.isFile (projectDirectory s.root / (s.prompt ++ ".md" : Text)) = .ok true)
    (hhere : t.isFile (.ofText s.prompt) ≠ .ok true)
    (hread : t.readText (projectDirectory s.root / (s.prompt ++ ".md" : Text)) = .ok content)
    (hcheck : check (projectDirectory s.root / (s.prompt ++ ".md" : Text)) content = .ok ())
    (hclient : Client.ofHost h t = .ok client) :
    (Supply.online h).build s t w =
      (.ok (Summarizer.ofSettings s (Text.trim content), client), w) := by
  have hdirs : directories h (some (projectDirectory s.root)) [] =
      .ok [projectDirectory s.root, h.bundledPrompts] := directories_project hroot
  have hres : resolve h t [projectDirectory s.root, h.bundledPrompts] s.prompt =
      .ok (projectDirectory s.root / (s.prompt ++ ".md" : Text)) :=
    resolve_of_plain hne hslash htilde hfile hhere hpoint
  have hload : load h t [projectDirectory s.root, h.bundledPrompts] s.prompt =
      .ok ⟨Text.trim content, projectDirectory s.root / (s.prompt ++ ".md" : Text)⟩ := by
    simp only [load, hres, hread, hcheck]
  unfold projectDirectory at hdirs hload
  simp only [Supply.online, hdirs, hload, hclient]

/-- A project with a prompt of its own and nothing else. -/
def withPrompt (file : Text) : Tree :=
  ⟨.dir [(".autosummary", .dir [("prompts", .dir [(file, .file (Utf8.encode "Purpose") 0o644)])])],
    [], 0o022⟩

/-- A plain name. -/
theorem resolve_project_brief :
    let own := projectDirectory (.ofText ".")
    ∃ dirs, directories Settings.emptyHost (some own) [] = .ok dirs ∧
      resolve Settings.emptyHost (withPrompt "brief.md") dirs "brief" =
        .ok (own / ("brief.md" : Text)) := by
  intro own
  have hroot : ¬ (Path.ofText ".").BeginsAtHome := by
    rintro ⟨-, first, rest, hparts, -⟩
    cases hparts
  have hfile : (withPrompt "brief.md").isFile (own / ("brief.md" : Text)) = .ok true := by
    decide +kernel
  have hbundled : (withPrompt "brief.md").isFile Settings.emptyHost.bundledPrompts ≠ .ok true := by
    decide +kernel
  obtain ⟨dirs, hdirs, hiff⟩ := @resolve_project_iff "brief" Settings.emptyHost _ (.ofText ".")
    (by decide) (by decide) (by decide) hroot hfile (by decide +kernel) hbundled
  exact ⟨dirs, hdirs, hiff.mpr (by decide)⟩

/-- A name with a point in it: the prompt is there, and nothing else goes by that name. -/
theorem not_resolve_project :
    let t := withPrompt "v1.2.md"
    let own := projectDirectory (.ofText ".")
    t.isFile (own / ("v1.2.md" : Text)) = .ok true ∧ t.isFile (.ofText "v1.2") = .ok false ∧
      t.isFile (own / ("v1.2" : Text)) = .ok false ∧
      ∃ dirs, directories Settings.emptyHost (some own) [] = .ok dirs ∧
        resolve Settings.emptyHost t dirs "v1.2" =
          .error (.notFound "v1.2" (.ofText "v1.2") dirs) := by
  intro t own
  refine ⟨by decide +kernel, by decide +kernel, by decide +kernel,
    [own, Settings.emptyHost.bundledPrompts], by decide +kernel, by decide +kernel⟩

end Prompt
end Synopsis
