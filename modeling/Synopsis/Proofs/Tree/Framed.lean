import Synopsis.Proofs.Tree.Alike
import Synopsis.Proofs.Tree.Directories

namespace Synopsis.Tree

variable {t t' t'' : Tree} {p : Path} {loc : Location}
  {made made' changed changed' : Location → Prop}

/-- A tree and a later one with all its directories and files. -/
structure Framed (made changed : Location → Prop) (t t' : Tree) : Prop where
  here : t'.here = t.here
  dir (loc : Location) : t.top.item? loc = some .dir → t'.top.item? loc = some .dir
  kept (loc : Location) (content : List UInt8) (mode : Nat) :
    t.top.item? loc = some (.file content mode) →
      ∃ content', t'.top.item? loc = some (.file content' mode) ∧ (content' ≠ content → changed loc)
  new (loc : Location) (content : List UInt8) (mode : Nat) :
    t'.top.item? loc = some (.file content mode) →
      made loc ∨ ∃ content' mode', t.top.item? loc = some (.file content' mode')

namespace Framed

theorem refl (made changed : Location → Prop) (t : Tree) : Framed made changed t t where
  here := rfl
  dir _ h := h
  kept _ content _ h := ⟨content, h, fun hne => absurd rfl hne⟩
  new _ content mode h := .inr ⟨content, mode, h⟩

theorem mono (h : Framed made changed t t') (hmade : ∀ loc, made loc → made' loc)
    (hchanged : ∀ loc, changed loc → changed' loc) : Framed made' changed' t t' where
  here := h.here
  dir := h.dir
  kept loc content mode hitem := by
    obtain ⟨content', hitem', hne⟩ := h.kept loc content mode hitem
    exact ⟨content', hitem', fun hother => hchanged loc (hne hother)⟩
  new loc content mode hitem := (h.new loc content mode hitem).imp_left (hmade loc)

/-- Two changes after each other. The second may change what it may in the tree in between. -/
theorem trans (h : Framed made changed t t') (h' : Framed made changed t' t'') :
    Framed made changed t t'' where
  here := h'.here.trans h.here
  dir loc hdir := h'.dir loc (h.dir loc hdir)
  kept loc content mode hitem := by
    obtain ⟨content', hitem', hne⟩ := h.kept loc content mode hitem
    obtain ⟨content'', hitem'', hne'⟩ := h'.kept loc content' mode hitem'
    refine ⟨content'', hitem'', fun hother => ?_⟩
    by_cases hsame : content' = content
    · exact hne' fun heq => hother (heq.trans hsame)
    · exact hne hsame
  new loc content mode hitem := by
    rcases h'.new loc content mode hitem with hmade | ⟨content', mode', hitem'⟩
    · exact .inl hmade
    · exact h.new loc content' mode' hitem'

end Framed

end Synopsis.Tree
