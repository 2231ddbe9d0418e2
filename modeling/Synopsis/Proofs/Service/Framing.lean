import Synopsis.Proofs.Service.Abort
import Synopsis.Proofs.Service.Naming
import Synopsis.Proofs.Service.Session
import Synopsis.Proofs.Tree.Framed

namespace Synopsis

/-- The type of what lies at a location. -/
def Location.suffix (loc : Location) : Text := (Path.mk .root loc).suffix

namespace Service

variable {α σ : Type} {sv : Service α σ} {known : Index} {path : Text} {paths : List Text}
  {file : Path} {source : Source} {t t' : Tree} {s s' : Session α σ} {d : Dialect}
  {loc : Location}

/-- A file of a type that can hold a summary has the type of the path that it was read under. -/
theorem suffix_of_read (hd : Dialect.ofExtension? (Path.extension path) = some d)
    (hread : sv.read t path = .ok (file, source)) :
    Location.suffix (t.destination file) = Path.extension path := by
  have hname := getLast?_destination (t := t) (read_eq_ok_iff.mp hread).1 hd
  rw [Location.suffix, Path.suffix, Path.name, hname, Option.getD_some]
  rfl

/-- A file that one of some paths leads to, of a type that is wanted, can hold a summary and is not
kept free of summaries. -/
structure Embeds (sv : Service α σ) (t : Tree) (paths : List Text) (loc : Location) : Prop where
  leads : ∃ path ∈ paths, sv.destination? t path = some loc
  wanted : loc.suffix ∈ sv.settings.extensions
  embeddable : Dialect.ofExtension? loc.suffix ≠ none
  included : loc.suffix ∉ sv.settings.exclusions

theorem Embeds.of_here (h : sv.Embeds t' paths loc) (hhere : t'.here = t.here) :
    sv.Embeds t paths loc where
  leads := by
    obtain ⟨path, hpath, hloc⟩ := h.leads
    rw [destination?_of_here hhere] at hloc
    exact ⟨path, hpath, hloc⟩
  wanted := h.wanted
  embeddable := h.embeddable
  included := h.included

/-- A file that one of some paths leads to, and that holds a block in the dialect of its type. -/
structure HoldsBlock (sv : Service α σ) (t : Tree) (paths : List Text) (loc : Location) : Prop where
  leads : ∃ path ∈ paths, sv.destination? t path = some loc
  found : ∃ d content mode raw, Dialect.ofExtension? loc.suffix = some d ∧
    t.top.item? loc = some (.file content mode) ∧ Utf8.decode content = .ok raw ∧
    Block.isIn d (Source.ofText raw).lines = true

theorem Strips.alike {result : Except Failure Bool} (h : Strips sv path t result t')
    (hpath : path ∈ paths) : Tree.Alike (sv.HoldsBlock t paths) t t' := by
  cases h with
  | written d hd file source hread stripped hstrip _ hwrite =>
    obtain ⟨content, mode, hitem, raw, hdecode, hsource⟩ := item?_of_read hread
    obtain ⟨-, raw', hexact, -⟩ := read_eq_ok_iff.mp hread
    refine (Tree.replaceText_alike hexact hwrite).mono ?_
    rintro _ rfl
    have hin : Block.isIn d (Source.ofText raw).lines = true := by
      rw [← hsource, Block.isIn]
      simp only [Source.strip?, Block.strip?, Option.map_eq_some_iff] at hstrip
      obtain ⟨lines, ⟨cut, hcut, -⟩, -⟩ := hstrip
      rw [hcut]
      rfl
    have hsuffix := suffix_of_read hd hread
    exact {
      leads := ⟨path, hpath, destination?_of_read hread⟩
      found := ⟨d, content, mode, raw, by rw [hsuffix, hd], hitem, hdecode, hin⟩ }
  | none => exact .refl _ _
  | failed f => exact .refl _ _

end Service

end Synopsis
