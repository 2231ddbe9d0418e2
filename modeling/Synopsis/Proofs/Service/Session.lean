import Synopsis.Service.Batch

namespace Synopsis

variable {α σ : Type} {s s' s'' : Session α σ}

/-- Whether an event only tells of what happens. -/
def Event.isTold : Event → Bool
  | .noted _ | .printed .. => true
  | _ => false

/-- One session goes on from another in notes and printed lines alone. -/
def Session.Tells (s s' : Session α σ) : Prop :=
  ∃ events, s' = s.record events ∧ ∀ e ∈ events, e.isTold = true

namespace Session

theorem record_record (s : Session α σ) (first second : List Event) :
    (s.record first).record second = s.record (first ++ second) := by
  simp [record]

theorem foldl_print (stream : Stream) (lines : List Text) (s : Session α σ) :
    lines.foldl (fun s line => s.print stream line) s = s.record (lines.map (.printed stream)) := by
  induction lines generalizing s with
  | nil => simp [record]
  | cons line r ih =>
    rw [List.foldl_cons, ih]
    simp [print, record_record]

namespace Tells

theorem refl (s : Session α σ) : s.Tells s := ⟨[], by simp [record], by simp⟩

theorem trans (h : s.Tells s') (h' : s'.Tells s'') : s.Tells s'' := by
  obtain ⟨first, rfl, hfirst⟩ := h
  obtain ⟨second, rfl, hsecond⟩ := h'
  refine ⟨first ++ second, record_record s first second, ?_⟩
  intro e he
  exact (List.mem_append.mp he).elim (hfirst e) (hsecond e)

theorem note (s : Session α σ) (n : Note) : s.Tells (s.note n) :=
  ⟨[.noted n], rfl, by simp [Event.isTold]⟩

theorem notes (s : Session α σ) (notes : List Note) : s.Tells (s.record (notes.map .noted)) := by
  refine ⟨_, rfl, ?_⟩
  intro e he
  obtain ⟨n, -, rfl⟩ := List.mem_map.mp he
  rfl

theorem print (s : Session α σ) (stream : Stream) (line : Text) :
    s.Tells (s.print stream line) :=
  ⟨[.printed stream line], rfl, by simp [Event.isTold]⟩

theorem prints (s : Session α σ) (stream : Stream) (lines : List Text) :
    s.Tells (lines.foldl (fun s line => s.print stream line) s) := by
  rw [foldl_print]
  refine ⟨_, rfl, ?_⟩
  intro e he
  obtain ⟨line, -, rfl⟩ := List.mem_map.mp he
  rfl

theorem tree (h : s.Tells s') : s'.tree = s.tree := by
  obtain ⟨events, rfl, -⟩ := h
  rfl

theorem holding (h : s.Tells s') : s'.holding = s.holding := by
  obtain ⟨events, rfl, -⟩ := h
  rfl

end Tells

theorem close_tree (s : Session α σ) : s.close.tree = s.tree := by
  unfold close
  split <;> rfl

end Session

theorem Service.load_tells (sv : Service α σ) (s : Session α σ) : s.Tells (sv.load s).2 := by
  unfold load
  split
  · exact .refl s
  · exact .refl s
  · exact .note s _

end Synopsis
