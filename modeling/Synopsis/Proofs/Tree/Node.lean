import Synopsis.Proofs.Keyed
import Synopsis.Tree.Node

namespace Synopsis

/-- What a look at a single location tells. -/
inductive Item where
  | dir
  | file (content : List UInt8) (mode : Nat)
  deriving DecidableEq

namespace Node

def item : Node → Item
  | .dir _ => .dir
  | .file content mode => .file content mode

def item? (n : Node) (loc : Location) : Option Item := (n.get? loc).map item

variable {n : Node} {entries : List (Text × Node)}

theorem get?_nil (n : Node) : n.get? [] = some n := by
  cases n <;> rfl

theorem get?_cons (entries : List (Text × Node)) (name : Text) (r : Location) :
    (Node.dir entries).get? (name :: r) = (Keyed.get? entries name).bind fun c => c.get? r := by
  rw [get?]
  cases Keyed.get? entries name <;> rfl

theorem get?_file_cons (content : List UInt8) (mode : Nat) (name : Text) (r : Location) :
    (Node.file content mode).get? (name :: r) = none := rfl

theorem get?_append (n : Node) (a b : Location) :
    n.get? (a ++ b) = (n.get? a).bind fun c => c.get? b := by
  induction a generalizing n with
  | nil => simp [get?_nil]
  | cons name r ih =>
    cases n with
    | file content mode => rfl
    | dir entries =>
      rw [List.cons_append, get?_cons, get?_cons]
      cases Keyed.get? entries name with
      | none => rfl
      | some c => simpa using ih c

theorem item?_nil_eq_dir_iff : n.item? [] = some .dir ↔ ∃ entries, n = .dir entries := by
  cases n <;> simp [item?, get?_nil, item]

theorem item?_eq_dir_iff {loc : Location} :
    n.item? loc = some .dir ↔ ∃ entries, n.get? loc = some (.dir entries) := by
  simp only [item?, Option.map_eq_some_iff]
  constructor
  · rintro ⟨m, hm, hitem⟩
    cases m with
    | file content mode => simp [item] at hitem
    | dir entries => exact ⟨entries, hm⟩
  · rintro ⟨entries, h⟩
    exact ⟨_, h, rfl⟩

theorem item?_eq_file_iff {loc : Location} {content : List UInt8} {mode : Nat} :
    n.item? loc = some (.file content mode) ↔ n.get? loc = some (.file content mode) := by
  simp only [item?, Option.map_eq_some_iff]
  constructor
  · rintro ⟨m, hm, hitem⟩
    cases m with
    | file c k =>
      simp only [item, Item.file.injEq] at hitem
      rw [hm, hitem.1, hitem.2]
    | dir entries => simp [item] at hitem
  · intro h
    exact ⟨_, h, rfl⟩

theorem item?_eq_none_iff {loc : Location} : n.item? loc = none ↔ n.get? loc = none := by
  simp [item?]

/-- Only directories have something below them. -/
theorem item?_of_prefix {a b : Location} (h : (n.get? (a ++ b)).isSome) (hb : b ≠ []) :
    n.item? a = some .dir := by
  rw [get?_append] at h
  cases ha : n.get? a with
  | none => simp [ha] at h
  | some m =>
    cases m with
    | dir entries => exact item?_eq_dir_iff.mpr ⟨entries, ha⟩
    | file content mode =>
      cases b with
      | nil => exact absurd rfl hb
      | cons x xs => simp [ha, get?_file_cons] at h

/-- What takes the place of an entry when something is set at or below it. -/
def under : Option Node → Location → Node → Option Node
  | _, [], new => some new
  | some child, name :: r, new => some (child.set (name :: r) new)
  | none, _ :: _, _ => none

theorem set_cons (entries : List (Text × Node)) (name : Text) (r : Location) (new : Node) :
    (Node.dir entries).set (name :: r) new = match under (Keyed.get? entries name) r new with
      | some child => .dir (Keyed.set entries name child)
      | none => .dir entries := by
  cases r with
  | nil => rfl
  | cons m ms =>
    rw [set]
    · cases Keyed.get? entries name <;> rfl
    · simp

theorem set_cons_of_child {name : Text} {child : Node} (h : Keyed.get? entries name = some child)
    (r : Location) (new : Node) : (Node.dir entries).set (name :: r) new =
      .dir (Keyed.set entries name (child.set r new)) := by
  rw [set_cons, h]
  cases r with
  | nil => cases child <;> rfl
  | cons m ms => rfl

theorem erase_cons_of_child {name : Text} {child : Node}
    (h : Keyed.get? entries name = some child) {r : Location} (hr : r ≠ []) :
    (Node.dir entries).erase (name :: r) = .dir (Keyed.set entries name (child.erase r)) := by
  rw [erase, h]
  · simpa using hr

/-- A directory that is there, with something at its head or in its entry. -/
theorem dir_cons_cases {name : Text} {r : Location} (h : n.item? (name :: r) = some .dir) :
    ∃ entries child, n = .dir entries ∧ Keyed.get? entries name = some child ∧
      child.item? r = some .dir := by
  cases n with
  | file content mode => simp [item?, get?_file_cons] at h
  | dir entries =>
    rw [item?, get?_cons] at h
    cases hc : Keyed.get? entries name with
    | none => simp [hc] at h
    | some child => exact ⟨entries, child, rfl, hc, by simpa [hc, item?] using h⟩

theorem get?_entry (entries : List (Text × Node)) (name : Text) :
    (Node.dir entries).get? [name] = Keyed.get? entries name := by
  rw [get?_cons]
  cases Keyed.get? entries name <;> simp [get?_nil]

theorem item?_set_entry {name : Text} {new : Node}
    (hold : (Node.dir entries).item? [name] ≠ some .dir) (hnew : ∀ x r, new.get? (x :: r) = none)
    (loc : Location) : ((Node.dir entries).set [name] new).item? loc =
      if loc = [name] then some new.item else (Node.dir entries).item? loc := by
  cases loc with
  | nil => simp [set_cons, under, item?, get?_nil, item]
  | cons x r =>
    simp only [set_cons, under, item?, get?_cons, List.cons.injEq]
    by_cases hx : x = name
    · subst hx
      rw [Keyed.get?_set_self]
      cases r with
      | nil => simp [get?_nil]
      | cons y ys =>
        -- below the new node there is nothing, and there was nothing below the old one
        have hbelow : (Keyed.get? entries x).bind (fun c => c.get? (y :: ys)) = none := by
          cases hc : Keyed.get? entries x with
          | none => rfl
          | some c =>
            cases c with
            | file content mode => rfl
            | dir es => simp [item?, get?_entry, hc, item] at hold
        simp [hnew, hbelow]
    · simp [Keyed.get?_set_of_ne _ _ hx, hx]

/-- A file, or a directory without entries, that takes the place of a file or of nothing changes
what lies at this location and nowhere else. -/
theorem item?_set {dir : Location} {name : Text} {new : Node} (hdir : n.item? dir = some .dir)
    (hold : n.item? (dir ++ [name]) ≠ some .dir) (hnew : ∀ x r, new.get? (x :: r) = none)
    (loc : Location) : (n.set (dir ++ [name]) new).item? loc =
      if loc = dir ++ [name] then some new.item else n.item? loc := by
  induction dir generalizing n loc with
  | nil =>
    obtain ⟨entries, rfl⟩ := item?_nil_eq_dir_iff.mp hdir
    exact item?_set_entry hold hnew loc
  | cons d ds ih =>
    obtain ⟨entries, child, rfl, hchild, hds⟩ := dir_cons_cases hdir
    have hold' : child.item? (ds ++ [name]) ≠ some .dir := by
      simpa [item?, get?_cons, hchild] using hold
    rw [List.cons_append, set_cons_of_child hchild]
    cases loc with
    | nil => simp [item?, get?_nil, item]
    | cons x r =>
      have htail := ih hds hold' r
      by_cases hx : x = d
      · subst hx
        simpa [item?, get?_cons, Keyed.get?_set_self, hchild] using htail
      · simp [item?, get?_cons, Keyed.get?_set_of_ne _ _ hx, hx]

theorem set_set {dir : Location} {name : Text} (hdir : n.item? dir = some .dir) (x y : Node) :
    (n.set (dir ++ [name]) x).set (dir ++ [name]) y = n.set (dir ++ [name]) y := by
  induction dir generalizing n with
  | nil =>
    obtain ⟨entries, rfl⟩ := item?_nil_eq_dir_iff.mp hdir
    simp [set_cons, under, Keyed.set_set]
  | cons d ds ih =>
    obtain ⟨entries, child, rfl, hchild, hds⟩ := dir_cons_cases hdir
    rw [List.cons_append, set_cons_of_child hchild, set_cons_of_child (Keyed.get?_set_self _ _ _),
      set_cons_of_child hchild, Keyed.set_set, ih hds]

theorem set_of_get? {loc : Location} {m : Node} (h : n.get? loc = some m) : n.set loc m = n := by
  induction loc generalizing n with
  | nil =>
    rw [get?_nil, Option.some.injEq] at h
    subst h
    cases n <;> rfl
  | cons name r ih =>
    cases n with
    | file content mode => simp [get?_file_cons] at h
    | dir entries =>
      rw [get?_cons] at h
      obtain ⟨child, hchild, hr⟩ := Option.bind_eq_some_iff.mp h
      rw [set_cons_of_child hchild, ih hr, Keyed.set_of_get? hchild]

/-- What was put under a free name can be taken away without a trace. -/
theorem erase_set {dir : Location} {name : Text} (hdir : n.item? dir = some .dir)
    (hfree : n.get? (dir ++ [name]) = none) (x : Node) :
    (n.set (dir ++ [name]) x).erase (dir ++ [name]) = n := by
  induction dir generalizing n with
  | nil =>
    obtain ⟨entries, rfl⟩ := item?_nil_eq_dir_iff.mp hdir
    rw [List.nil_append, get?_entry] at hfree
    simp [set_cons, under, erase, Keyed.erase_set_of_get?_none _ hfree]
  | cons d ds ih =>
    obtain ⟨entries, child, rfl, hchild, hds⟩ := dir_cons_cases hdir
    have hfree' : child.get? (ds ++ [name]) = none := by
      simpa [get?_cons, hchild] using hfree
    rw [List.cons_append, set_cons_of_child hchild,
      erase_cons_of_child (Keyed.get?_set_self _ _ _) (by simp), ih hds hfree', Keyed.set_set,
      Keyed.set_of_get? hchild]

theorem erase_set_set_entry {name m : Text} (hfree : Keyed.get? entries name = none)
    (hm : m ≠ name) (ms : Location) (x y : Node) :
    (((Node.dir entries).set [name] x).set (m :: ms) y).erase [name] =
      (Node.dir entries).set (m :: ms) y := by
  simp only [set_cons entries name, under]
  rw [set_cons, set_cons, Keyed.get?_set_of_ne _ _ hm]
  cases under (Keyed.get? entries m) ms y with
  | none => simp [erase, Keyed.erase_set_of_get?_none _ hfree]
  | some child => simp [erase, Keyed.erase_set_set hfree hm]

/-- Changes in two entries, one of which is undone. -/
theorem erase_set_set_of_ne {d m : Text} {r : Location} {child x : Node} (hm : m ≠ d)
    (hchild : Keyed.get? entries d = some child) (hr : r ≠ [])
    (hback : (child.set r x).erase r = child) (ms : Location) (y : Node) :
    (((Node.dir entries).set (d :: r) x).set (m :: ms) y).erase (d :: r) =
      (Node.dir entries).set (m :: ms) y := by
  have hself := Keyed.get?_set_self entries d (child.set r x)
  rw [set_cons_of_child hchild, set_cons, set_cons, Keyed.get?_set_of_ne _ _ hm]
  cases under (Keyed.get? entries m) ms y with
  | none =>
    simp only
    rw [erase_cons_of_child hself hr, hback, Keyed.set_set, Keyed.set_of_get? hchild]
  | some v =>
    have hstill : Keyed.get? (Keyed.set (Keyed.set entries d (child.set r x)) m v) d =
        some (child.set r x) := by
      rw [Keyed.get?_set_of_ne _ _ (Ne.symm hm), hself]
    have hsome : (Keyed.get? (Keyed.set entries d (child.set r x)) d).isSome := by
      rw [hself]
      rfl
    simp only
    rw [erase_cons_of_child hstill hr, hback, ← Keyed.set_comm hsome hm, Keyed.set_set,
      Keyed.set_of_get? hchild]

/-- The same, where another location, neither above nor below, was set in the meantime. -/
theorem erase_set_set {dir other : Location} {name : Text} (hdir : n.item? dir = some .dir)
    (hfree : n.get? (dir ++ [name]) = none) (hbelow : ¬ dir ++ [name] <+: other)
    (habove : ¬ other <+: dir ++ [name]) (x y : Node) :
    ((n.set (dir ++ [name]) x).set other y).erase (dir ++ [name]) = n.set other y := by
  induction dir generalizing n other with
  | nil =>
    obtain ⟨entries, rfl⟩ := item?_nil_eq_dir_iff.mp hdir
    rw [List.nil_append, get?_entry] at hfree
    cases other with
    | nil => exact absurd List.nil_prefix habove
    | cons m ms =>
      have hm : m ≠ name := by
        rintro rfl
        exact hbelow (List.cons_prefix_cons.mpr ⟨rfl, List.nil_prefix⟩)
      exact erase_set_set_entry hfree hm ms x y
  | cons d ds ih =>
    obtain ⟨entries, child, rfl, hchild, hds⟩ := dir_cons_cases hdir
    have hfree' : child.get? (ds ++ [name]) = none := by
      simpa [get?_cons, hchild] using hfree
    cases other with
    | nil => exact absurd List.nil_prefix habove
    | cons m ms =>
      by_cases hm : m = d
      · -- both changes are in the same entry
        subst hm
        rw [List.cons_append] at hbelow habove ⊢
        rw [List.cons_prefix_cons] at hbelow habove
        have htail := ih hds hfree' (fun h => hbelow ⟨rfl, h⟩) (fun h => habove ⟨rfl, h⟩)
        rw [set_cons_of_child hchild, set_cons_of_child (Keyed.get?_set_self _ _ _), Keyed.set_set,
          erase_cons_of_child (Keyed.get?_set_self _ _ _) (by simp), Keyed.set_set, htail,
          set_cons_of_child hchild]
      · exact erase_set_set_of_ne hm hchild (by simp) (erase_set hds hfree' x) ms y

end Node

end Synopsis
