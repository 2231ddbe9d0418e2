import Synopsis.Json.Reader

namespace Synopsis.Json

variable {stack stack' : List Frame} {focus focus' : Focus} {t : Token} {ts front : List Token}
  {v : Json} {room : Nat}

/-- The tokens of what stands in an array, and its value. -/
abbrev Element := List Token × Json

/-- What stands in an object: a key, and the tokens and the value behind it. -/
abbrev Member := Text × Element

def memberTokens (f : Member) : List Token := .text f.1 :: .colon :: f.2.1

/-- Of a repeated key the last value counts, at the place of the first. -/
def fieldsOf (fs : List Member) : Keyed Json := fs.foldl (fun m f => Keyed.set m f.1 f.2.2) []

inductive Leaf : List Token → Json → Prop where
  | text (s : Text) : Leaf [.text s] (.str s)
  | atom (v : Json) : Leaf [.atom v] v

/-- A value, given those that may stand in its brackets. -/
inductive Layer (Inner : List Token → Json → Prop) : List Token → Json → Prop where
  | leaf {ts : List Token} {v : Json} (h : Leaf ts v) : Layer Inner ts v
  | arr {items : List Element} (h : ∀ i ∈ items, Inner i.1 i.2) :
    Layer Inner (.openArray :: [.comma].intercalate (items.map Prod.fst) ++ [.closeArray])
      (.arr (items.map Prod.snd))
  | obj {fields : List Member} (h : ∀ f ∈ fields, Inner f.2.1 f.2.2) :
    Layer Inner (.openObject :: [.comma].intercalate (fields.map memberTokens) ++ [.closeObject])
      (.obj (fieldsOf fields))

/-- The value that tokens denote, with so many brackets in one another at most. -/
def Denotes : Nat → List Token → Json → Prop
  | 0 => Leaf
  | room + 1 => Layer (Denotes room)

theorem denotes_leaf (h : Leaf ts v) (room : Nat) : Denotes room ts v := by
  cases room with
  | zero => exact h
  | succ room => exact .leaf h

theorem intercalate_comma_cons (part : List Token) (parts : List (List Token)) :
    [Token.comma].intercalate (part :: parts) = part ++ parts.flatMap (.comma :: ·) := by
  induction parts generalizing part with
  | nil => simp
  | cons next parts ih => rw [List.intercalate_cons_cons, ih]; simp

/-- Parts with a comma behind each. -/
def ended (parts : List (List Token)) : List Token := parts.flatMap (· ++ [.comma])

theorem intercalate_comma_snoc (parts : List (List Token)) (last : List Token) :
    [Token.comma].intercalate (parts ++ [last]) = ended parts ++ last := by
  induction parts with
  | nil => simp [ended]
  | cons part parts ih =>
    rw [List.cons_append, List.intercalate_cons_of_ne_nil (by simp), ih]
    simp [ended]

theorem ended_snoc (parts : List (List Token)) (last : List Token) :
    ended (parts ++ [last]) = ended parts ++ last ++ [.comma] := by
  simp [ended]

theorem fieldsOf_snoc (fs : List Member) (f : Member) :
    fieldsOf (fs ++ [f]) = Keyed.set (fieldsOf fs) f.1 f.2.2 := by
  simp [fieldsOf]

def Focus.Starts : Focus → Prop
  | .value => True
  | .firstItem => True
  | _ => False

theorem step_key_text (seen : Keyed Json) (first : Bool) (s : Text) :
    step stack (.key seen first) (.text s) = .ok (stack, .colon seen s) := by
  rw [step]

theorem step_key_close (seen : Keyed Json) :
    step stack (.key seen true) .closeObject = .ok (stack, .whole (.obj seen)) := by
  rw [step]

theorem step_colon (seen : Keyed Json) (key : Text) :
    step stack (.colon seen key) .colon = .ok (.fields seen key :: stack, .value) := by
  rw [step]

theorem step_items_comma (seen : List Json) (v : Json) :
    step (.items seen :: stack) (.whole v) .comma = .ok (.items (v :: seen) :: stack, .value) := by
  rw [step]

theorem step_items_close (seen : List Json) (v : Json) :
    step (.items seen :: stack) (.whole v) .closeArray =
      .ok (stack, .whole (.arr (v :: seen).reverse)) := by
  rw [step]

theorem step_fields_comma (seen : Keyed Json) (key : Text) (v : Json) :
    step (.fields seen key :: stack) (.whole v) .comma =
      .ok (stack, .key (Keyed.set seen key v) false) := by
  rw [step]

theorem step_fields_close (seen : Keyed Json) (key : Text) (v : Json) :
    step (.fields seen key :: stack) (.whole v) .closeObject =
      .ok (stack, .whole (.obj (Keyed.set seen key v))) := by
  rw [step]

theorem step_starts (h : focus.Starts) (ht : t ≠ .closeArray) :
    step stack focus t = startValue stack t := by
  cases focus with
  | value => rw [step]
  | firstItem =>
    unfold step
    split <;> simp_all
  | _ => exact h.elim

theorem run_cons_of_step (h : step stack focus t = .ok (stack', focus')) (r : List Token) :
    run stack focus (t :: r) = run stack' focus' r := by
  rw [run, h]

/-- The tokens are read as the value wherever one may start in this stack. -/
def Reads (stack : List Frame) (ts : List Token) (v : Json) : Prop :=
  ∀ focus : Focus, focus.Starts → ∀ r, run stack focus (ts ++ r) = run stack (.whole v) r

theorem reads_leaf (h : Leaf ts v) (stack : List Frame) : Reads stack ts v := by
  intro focus hfocus r
  cases h with
  | text s => exact run_cons_of_step (step_starts hfocus (by simp)) r
  | atom v => exact run_cons_of_step (step_starts hfocus (by simp)) r

theorem run_items {seen : List Json} {more : List Element}
    (h : ∀ i ∈ more, ∀ seen, Reads (.items seen :: stack) i.1 i.2) (r : List Token) :
    run (.items seen :: stack) (.whole v)
        ((more.map Prod.fst).flatMap (.comma :: ·) ++ .closeArray :: r) =
      run stack (.whole (.arr ((v :: seen).reverse ++ more.map Prod.snd))) r := by
  induction more generalizing seen v with
  | nil =>
    rw [List.map_nil, List.map_nil, List.append_nil]
    exact run_cons_of_step (step_items_close seen v) r
  | cons i more ih =>
    have hi := h i List.mem_cons_self (v :: seen) .value trivial
    rw [List.map_cons, List.flatMap_cons, List.cons_append, List.cons_append,
      run_cons_of_step (step_items_comma seen v), List.append_assoc, hi,
      ih fun j hj => h j (List.mem_cons_of_mem _ hj)]
    simp

theorem run_field {f : Member} {seen : Keyed Json} {first : Bool}
    (h : ∀ seen, Reads (.fields seen f.1 :: stack) f.2.1 f.2.2) (r : List Token) :
    run stack (.key seen first) (memberTokens f ++ r) =
      run (.fields seen f.1 :: stack) (.whole f.2.2) r := by
  rw [memberTokens, List.cons_append, run_cons_of_step (step_key_text seen first f.1),
    List.cons_append, run_cons_of_step (step_colon seen f.1)]
  exact h seen .value trivial r

theorem run_fields {f : Member} {seen : Keyed Json} {first : Bool} {more : List Member}
    (h : ∀ g ∈ f :: more, ∀ seen, Reads (.fields seen g.1 :: stack) g.2.1 g.2.2)
    (r : List Token) :
    run stack (.key seen first) (memberTokens f ++
        ((more.map memberTokens).flatMap (.comma :: ·) ++ .closeObject :: r)) =
      run stack (.whole (.obj ((f :: more).foldl (fun m g => Keyed.set m g.1 g.2.2) seen))) r := by
  induction more generalizing seen f first with
  | nil =>
    rw [run_field (h f List.mem_cons_self)]
    exact run_cons_of_step (step_fields_close seen f.1 f.2.2) r
  | cons g more ih =>
    rw [run_field (h f List.mem_cons_self), List.map_cons, List.flatMap_cons, List.cons_append,
      List.cons_append, run_cons_of_step (step_fields_comma seen f.1 f.2.2), List.append_assoc,
      ih fun e he => h e (List.mem_cons_of_mem _ he)]
    rfl

/-- What is denoted is read, where there is room for its brackets. -/
theorem run_of_denotes (h : Denotes room ts v) (hroom : stack.length + room ≤ depthLimit) :
    Reads stack ts v := by
  -- what stands in brackets has less room, but is read in a stack with one frame more
  induction room generalizing ts v stack with
  | zero => exact reads_leaf h stack
  | succ room ih =>
    have hopen : ¬ depthLimit ≤ stack.length := by omega
    intro focus hfocus r
    cases h with
    | leaf h => exact reads_leaf h stack focus hfocus r
    | @arr items hitems =>
      have hread : ∀ i ∈ items, ∀ seen, Reads (.items seen :: stack) i.1 i.2 := fun i hi seen =>
        ih (hitems i hi) (by rw [List.length_cons]; omega)
      have hstart : step stack focus .openArray = .ok (.items [] :: stack, .firstItem) := by
        rw [step_starts hfocus (by simp), startValue, if_neg hopen]
      rw [List.cons_append, List.cons_append, run_cons_of_step hstart]
      cases items with
      | nil => exact run_cons_of_step rfl r
      | cons i items =>
        have hfirst := hread i List.mem_cons_self [] .firstItem trivial
        rw [List.map_cons, intercalate_comma_cons, List.append_assoc, List.append_assoc, hfirst,
          List.singleton_append, run_items fun j hj => hread j (List.mem_cons_of_mem _ hj)]
        rfl
    | @obj fields hfields =>
      have hread : ∀ f ∈ fields, ∀ seen, Reads (.fields seen f.1 :: stack) f.2.1 f.2.2 :=
        fun f hf seen => ih (hfields f hf) (by rw [List.length_cons]; omega)
      have hstart : step stack focus .openObject = .ok (stack, .key [] true) := by
        rw [step_starts hfocus (by simp), startValue, if_neg hopen]
      rw [List.cons_append, List.cons_append, run_cons_of_step hstart]
      cases fields with
      | nil => exact run_cons_of_step (step_key_close []) r
      | cons f fields =>
        rw [List.map_cons, intercalate_comma_cons, List.append_assoc, List.append_assoc,
          List.singleton_append, run_fields hread]
        rfl

/-- The tokens in front of the values that are still open, and the room that is left in them. -/
inductive Opened : Nat → List Frame → List Token → Prop where
  | nil : Opened depthLimit [] []
  | items {room : Nat} {stack : List Frame} {front : List Token} {done : List Element}
    (h : Opened (room + 1) stack front) (hdone : ∀ i ∈ done, Denotes room i.1 i.2) :
    Opened room (.items (done.map Prod.snd).reverse :: stack)
      (front ++ .openArray :: ended (done.map Prod.fst))
  | fields {room : Nat} {stack : List Frame} {front : List Token} {done : List Member} {key : Text}
    (h : Opened (room + 1) stack front) (hdone : ∀ f ∈ done, Denotes room f.2.1 f.2.2) :
    Opened room (.fields (fieldsOf done) key :: stack)
      (front ++ .openObject :: ended (done.map memberTokens) ++ [.text key, .colon])

theorem Opened.room_add (h : Opened room stack front) : room + stack.length = depthLimit := by
  induction h with
  | nil => rfl
  | items _ _ ih => rw [List.length_cons]; omega
  | fields _ _ ih => rw [List.length_cons]; omega

/-- The tokens that lead to a state of the machine. An object may be closed in front of its first
key only, and then it has no fields. -/
inductive Reached : List Token → List Frame → Focus → Prop where
  | value {room : Nat} {stack : List Frame} {front : List Token} (h : Opened room stack front) :
    Reached front stack .value
  | firstItem {room : Nat} {stack : List Frame} {front : List Token}
    (h : Opened room stack front) : Reached front stack .firstItem
  | key {room : Nat} {stack : List Frame} {front : List Token} {done : List Member} {first : Bool}
    (h : Opened (room + 1) stack front) (hdone : ∀ f ∈ done, Denotes room f.2.1 f.2.2)
    (hfirst : first = true → done = []) :
    Reached (front ++ .openObject :: ended (done.map memberTokens)) stack
      (.key (fieldsOf done) first)
  | colon {room : Nat} {stack : List Frame} {front : List Token} {done : List Member} {key : Text}
    (h : Opened (room + 1) stack front) (hdone : ∀ f ∈ done, Denotes room f.2.1 f.2.2) :
    Reached (front ++ .openObject :: ended (done.map memberTokens) ++ [.text key]) stack
      (.colon (fieldsOf done) key)
  | whole {room : Nat} {stack : List Frame} {front ts : List Token} {v : Json}
    (h : Opened room stack front) (hv : Denotes room ts v) :
    Reached (front ++ ts) stack (.whole v)

theorem reached_of_startValue (h : Opened room stack front)
    (hstart : startValue stack t = .ok (stack', focus')) :
    Reached (front ++ [t]) stack' focus' := by
  have hlength := h.room_add
  cases t with
  | text s =>
    obtain ⟨rfl, rfl⟩ := Prod.mk.inj (Except.ok.inj hstart)
    exact .whole h (denotes_leaf (.text s) room)
  | atom v =>
    obtain ⟨rfl, rfl⟩ := Prod.mk.inj (Except.ok.inj hstart)
    exact .whole h (denotes_leaf (.atom v) room)
  | openArray =>
    rw [startValue] at hstart
    split at hstart
    · simp at hstart
    · obtain ⟨room, rfl⟩ : ∃ r, room = r + 1 := ⟨room - 1, by omega⟩
      obtain ⟨rfl, rfl⟩ := Prod.mk.inj (Except.ok.inj hstart)
      have hnone : ∀ e ∈ ([] : List Element), Denotes room e.1 e.2 := by simp
      exact .firstItem (.items h hnone)
  | openObject =>
    rw [startValue] at hstart
    split at hstart
    · simp at hstart
    · obtain ⟨room, rfl⟩ : ∃ r, room = r + 1 := ⟨room - 1, by omega⟩
      obtain ⟨rfl, rfl⟩ := Prod.mk.inj (Except.ok.inj hstart)
      have hnone : ∀ m ∈ ([] : List Member), Denotes room m.2.1 m.2.2 := by simp
      exact .key h hnone fun _ => rfl
  | _ => simp [startValue] at hstart

/-- The value that is done is the last one of the array around it. -/
theorem denotes_arr {done : List Element} (hdone : ∀ i ∈ done, Denotes room i.1 i.2)
    (hv : Denotes room ts v) :
    Denotes (room + 1) (.openArray :: (ended (done.map Prod.fst) ++ ts) ++ [.closeArray])
      (.arr (v :: (done.map Prod.snd).reverse).reverse) := by
  have hall : ∀ e ∈ done ++ [(ts, v)], Denotes room e.1 e.2 :=
    List.forall_mem_append.mpr ⟨hdone, List.forall_mem_singleton.mpr hv⟩
  have harr := Layer.arr hall
  rw [List.map_append, List.map_singleton, intercalate_comma_snoc, List.map_append] at harr
  simpa [Denotes] using harr

theorem denotes_obj {done : List Member} (hdone : ∀ f ∈ done, Denotes room f.2.1 f.2.2)
    (hv : Denotes room ts v) (key : Text) :
    Denotes (room + 1) (.openObject ::
        (ended (done.map memberTokens) ++ memberTokens (key, ts, v)) ++ [.closeObject])
      (.obj (Keyed.set (fieldsOf done) key v)) := by
  have hall : ∀ m ∈ done ++ [(key, ts, v)], Denotes room m.2.1 m.2.2 :=
    List.forall_mem_append.mpr ⟨hdone, List.forall_mem_singleton.mpr hv⟩
  have hobj := Layer.obj hall
  rw [List.map_append, List.map_singleton, intercalate_comma_snoc, fieldsOf_snoc] at hobj
  exact hobj

/-- Behind a value its array or object goes on or is closed. -/
theorem reached_of_whole {done : List Token} (h : Opened room stack front)
    (hv : Denotes room done v) (hstep : step stack (.whole v) t = .ok (stack', focus')) :
    Reached (front ++ done ++ [t]) stack' focus' := by
  cases h with
  | nil => simp [step] at hstep
  | @items _ stack front before h hbefore =>
    cases t with
    | comma =>
      rw [step_items_comma, Except.ok.injEq, Prod.mk.injEq] at hstep
      obtain ⟨rfl, rfl⟩ := hstep
      have hall : ∀ e ∈ before ++ [(done, v)], Denotes room e.1 e.2 :=
        List.forall_mem_append.mpr ⟨hbefore, List.forall_mem_singleton.mpr hv⟩
      have hgoes := Reached.value (.items h hall)
      simpa [ended_snoc] using hgoes
    | closeArray =>
      rw [step_items_close, Except.ok.injEq, Prod.mk.injEq] at hstep
      obtain ⟨rfl, rfl⟩ := hstep
      have hcloses := Reached.whole h (denotes_arr hbefore hv)
      simpa using hcloses
    | _ => simp [step] at hstep
  | @fields _ stack front before key h hbefore =>
    cases t with
    | comma =>
      rw [step_fields_comma, Except.ok.injEq, Prod.mk.injEq] at hstep
      obtain ⟨rfl, rfl⟩ := hstep
      have hall : ∀ m ∈ before ++ [(key, done, v)], Denotes room m.2.1 m.2.2 :=
        List.forall_mem_append.mpr ⟨hbefore, List.forall_mem_singleton.mpr hv⟩
      have hgoes := @Reached.key _ _ _ _ false h hall (by simp)
      simpa [ended_snoc, fieldsOf_snoc, memberTokens] using hgoes
    | closeObject =>
      rw [step_fields_close, Except.ok.injEq, Prod.mk.injEq] at hstep
      obtain ⟨rfl, rfl⟩ := hstep
      have hcloses := Reached.whole h (denotes_obj hbefore hv key)
      simpa [memberTokens] using hcloses
    | _ => simp [step] at hstep

/-- An array is closed without a value only if there is none in it. -/
theorem reached_of_closeArray (h : Opened room stack front)
    (hstep : step stack .firstItem .closeArray = .ok (stack', focus')) :
    Reached (front ++ [.closeArray]) stack' focus' := by
  cases h with
  | @items _ stack front done h hdone =>
    cases hseen : (done.map Prod.snd).reverse with
    | nil =>
      obtain rfl : done = [] := by simpa using hseen
      have hclose : step (.items [] :: stack) .firstItem .closeArray =
          .ok (stack, .whole (.arr [])) := rfl
      rw [hseen, hclose, Except.ok.injEq, Prod.mk.injEq] at hstep
      obtain ⟨rfl, rfl⟩ := hstep
      have hempty : Denotes (room + 1) [.openArray, .closeArray] (.arr []) :=
        @Layer.arr _ [] (by simp)
      have hcloses := Reached.whole h hempty
      simpa [ended] using hcloses
    | cons item seen => simp [hseen, step, startValue] at hstep
  | _ => simp [step, startValue] at hstep

/-- A step goes on from what has been read. -/
theorem reached_of_step (h : Reached front stack focus)
    (hstep : step stack focus t = .ok (stack', focus')) : Reached (front ++ [t]) stack' focus' := by
  cases h with
  | value h =>
    rw [step] at hstep
    exact reached_of_startValue h hstep
  | firstItem h =>
    by_cases ht : t = .closeArray
    · subst ht
      exact reached_of_closeArray h hstep
    · have hstarts : Focus.firstItem.Starts := trivial
      rw [step_starts hstarts ht] at hstep
      exact reached_of_startValue h hstep
  | @key room _ front done first h hdone hfirst =>
    cases t with
    | text s =>
      rw [step_key_text, Except.ok.injEq, Prod.mk.injEq] at hstep
      obtain ⟨rfl, rfl⟩ := hstep
      exact .colon h hdone
    | closeObject =>
      cases first with
      | true =>
        obtain rfl := hfirst rfl
        rw [step_key_close, Except.ok.injEq, Prod.mk.injEq] at hstep
        obtain ⟨rfl, rfl⟩ := hstep
        have hempty : Denotes (room + 1) [.openObject, .closeObject] (.obj []) :=
          @Layer.obj _ [] (by simp)
        have hcloses := Reached.whole h hempty
        simpa [ended, fieldsOf] using hcloses
      | false => simp [step] at hstep
    | _ => simp [step] at hstep
  | @colon _ _ _ _ key h hdone =>
    cases t with
    | colon =>
      rw [step_colon, Except.ok.injEq, Prod.mk.injEq] at hstep
      obtain ⟨rfl, rfl⟩ := hstep
      have hvalue := Reached.value (@Opened.fields _ _ _ _ key h hdone)
      simpa using hvalue
    | _ => simp [step] at hstep
  | whole h hv => exact reached_of_whole h hv hstep

theorem reached_of_run (h : Reached front stack focus)
    (hrun : run stack focus ts = .ok (stack', focus')) : Reached (front ++ ts) stack' focus' := by
  induction ts generalizing front stack focus with
  | nil =>
    obtain ⟨rfl, rfl⟩ := Prod.mk.inj (Except.ok.inj hrun)
    rwa [List.append_nil]
  | cons t r ih =>
    rw [run] at hrun
    split at hrun
    · simp at hrun
    · rename_i hstep
      have hlater := ih (reached_of_step h hstep) hrun
      simpa using hlater

/-- Tokens are read as the value that they denote, and as no other. -/
theorem ofTokens_eq_ok_iff : ofTokens ts = .ok v ↔ Denotes depthLimit ts v := by
  constructor
  · intro h
    unfold ofTokens at h
    split at h
    · rename_i hrun
      obtain rfl := Except.ok.inj h
      have hreached := reached_of_run (.value .nil) hrun
      generalize hfront : [] ++ ts = front at hreached
      cases hreached with
      | whole hopened hv =>
        cases hopened with
        | nil =>
          obtain rfl := hfront
          exact hv
    · simp at h
    · simp at h
  · intro h
    have hreads : Reads [] ts v := run_of_denotes h (by simp)
    have hrun := hreads .value trivial []
    rw [List.append_nil] at hrun
    rw [ofTokens, hrun]
    rfl

end Synopsis.Json
