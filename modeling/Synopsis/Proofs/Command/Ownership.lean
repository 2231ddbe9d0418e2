import Synopsis.Proofs.Command.Execution
import Synopsis.Proofs.Service.Ownership

namespace Synopsis

namespace Command

open Service

variable {α σ : Type} {sv : Service α σ} {s : Session α σ}

/-- A session that goes on from one without a summarizer and ends without one: none was built, or
one that was closed. -/
def Settles (s s' : Session α σ) : Prop :=
  s'.holding = .none ∧ (s'.turns = s.turns ∨ s'.turns = s.turns ++ [.built, .closed])

theorem settles_of_keeps {s' : Session α σ} (hnone : s.holding = .none) (h : s.Keeps s') :
    Settles s s' :=
  ⟨h.holding.trans hnone, .inl h.turns⟩

theorem settles_close {s' : Session α σ} (hnone : s.holding = .none) (h : s.Equips s') :
    Settles s s'.close := by
  rcases h with ⟨hhold, hturns⟩ | ⟨-, ⟨a, hown⟩, hturns⟩
  · have hsame : s'.close = s' := by rw [Session.close, hhold, hnone]
    rw [hsame]
    exact ⟨hhold.trans hnone, .inl hturns⟩
  · rw [Session.close, hown]
    refine ⟨rfl, .inr ?_⟩
    have hclosed := s'.turns_record [.closed]
    rw [hturns, List.append_assoc] at hclosed
    exact hclosed

theorem Settles.tells {s' s'' : Session α σ} (h : Settles s s') (htells : s'.Tells s'') :
    Settles s s'' := by
  obtain ⟨hnone, hturns⟩ := h
  refine ⟨htells.holding.trans hnone, ?_⟩
  rwa [htells.turns]

theorem settles_annotateFiles (hquiet : sv.supply.Quiet) (hnone : s.holding = .none)
    (paths : List Text) : Settles s (annotateFiles sv paths s).2 := by
  rcases annotateFiles_cases sv paths s with htells | ⟨chosen, start, -, hstart, hrun⟩
  · exact settles_of_keeps hnone (.of_tells htells)
  · have hequips := Session.Equips.trans (.of_tells hstart) (run_equips hquiet chosen start)
    rw [hrun]
    exact (settles_close hnone hequips).tells (conclude_tells sv (sv.run chosen start))

theorem stripFiles_keeps (sv : Service α σ) (paths : List Text) (s : Session α σ) :
    s.Keeps (stripFiles sv paths s).2 :=
  stripFiles_induction s.Keeps (fun _ _ htells hkeeps => hkeeps.trans (.of_tells htells))
    paths (fun path now hkeeps => hkeeps.trans (strip_keeps sv path now)) (.refl s)

/-- A command line closes what it has built, however it ends. -/
theorem settles_execute {h : Host} {supply : Supply α σ} (hquiet : supply.Quiet)
    (hnone : s.holding = .none) (args : List Text) :
    Settles s (execute h supply args s).2 := by
  rcases execute_cases h supply args s with hrefused | ⟨c, settings, index, -, hrun⟩
  · exact settles_of_keeps hnone (.of_tells hrefused.tells)
  · rw [hrun]
    cases c with
    | run paths options => exact settles_annotateFiles hquiet hnone paths
    | display path => exact settles_of_keeps hnone (.of_tells (displaySummary_tells _ path s))
    | list => exact settles_of_keeps hnone (.of_tells (listPaths_tells _ s))
    | strip paths => exact settles_of_keeps hnone (stripFiles_keeps _ paths s)

end Command

namespace Service

variable {α σ : Type} {sv : Service α σ} {s : Session α σ}

/-- What holds in a session `here` that a service has come to from `s` by calls. -/
structure Accounts (sv : Service α σ) (s here : Session α σ) : Prop where
  owned : here.Owned
  balanced (events : List Event) : events <+: here.events → Balanced (turnsOf events)
  closed : ∃ n, here.close.turns = (List.replicate n [Turn.built, .closed]).flatten
  lazily (job : Job)
    (hnever : ∀ known path now, Makes sv here job known path now → ¬ sv.Requires known path now)
    (build : Settings → Tree → σ → Except BuildFault α × σ) :
    (sv.building build).handle here job = sv.handle here job
  lent (a : α) : s.holding = .lent a → here.holding = .lent a ∧ here.turns = []

theorem balanced_of_owned (h : s.Owned) {events : List Event} (hpre : events <+: s.events) :
    Balanced (turnsOf events) := by
  obtain ⟨n, hn⟩ := h
  have hdue : s.holding.due = [] ∨ s.holding.due = [.built] := by
    cases s.holding <;> simp [Holding.due]
  have hturns : turnsOf events <+: s.turns := hpre.filterMap Event.turn?
  rw [hn] at hturns
  exact balanced_of_prefix hdue hturns

section

variable (hquiet : sv.supply.Quiet)

include hquiet

theorem owned_foldl_after (h : s.Owned) (jobs : List Job) : (jobs.foldl sv.after s).Owned := by
  induction jobs generalizing s with
  | nil => exact h
  | cons job r ih => exact ih (owned_after hquiet h job)

theorem keeps_foldl_after {a : α} (hlent : s.holding = .lent a) (jobs : List Job) :
    s.Keeps (jobs.foldl sv.after s) := by
  induction jobs generalizing s with
  | nil => exact .refl s
  | cons job r ih =>
    have hone := keeps_after hquiet hlent job
    exact hone.trans (ih (hone.holding.trans hlent))

theorem foldl_building_of_lent {a : α} (hlent : s.holding = .lent a)
    (build : Settings → Tree → σ → Except BuildFault α × σ) (jobs : List Job) :
    jobs.foldl (sv.building build).after s = jobs.foldl sv.after s := by
  induction jobs generalizing s with
  | nil => rfl
  | cons job r ih =>
    have hsame : (sv.building build).after s job = sv.after s job :=
      congrArg Prod.snd (handle_building_of_lent build hquiet hlent job)
    rw [List.foldl_cons, List.foldl_cons, hsame]
    exact ih ((keeps_after hquiet hlent job).holding.trans hlent)

/-- However the calls of a service follow each other, it builds a summarizer only when it needs one
and has none, and closes each that it builds, once; and the program ends without one. -/
theorem accounts_of_jobs (s : Session α σ) (hnew : s.turns = []) (hdue : s.holding.due = [])
    (jobs : List Job) :
    Accounts sv s (jobs.foldl sv.after s) ∧
    (∀ a, s.holding = .lent a → ∀ build : Settings → Tree → σ → Except BuildFault α × σ,
      jobs.foldl (sv.building build).after s = jobs.foldl sv.after s) ∧
    ∀ (h : Host) (args : List Text) (start : Session α σ), start.holding = .none →
      Command.Settles start (Command.execute h sv.supply args start).2 := by
  have hstart : s.Owned := ⟨0, by simp [hnew, hdue]⟩
  have howned := owned_foldl_after hquiet hstart jobs
  refine ⟨⟨howned, fun events => balanced_of_owned howned, ?_, ?_, ?_⟩, ?_, ?_⟩
  · obtain ⟨⟨n, hn⟩, hnone⟩ := howned.close
    exact ⟨n, by rw [hn, hnone, List.append_nil]⟩
  · intro job hnever build
    exact handle_building build hnever
  · intro a hlent
    have hkeeps := keeps_foldl_after hquiet hlent jobs
    exact ⟨hkeeps.holding.trans hlent, hkeeps.turns.trans hnew⟩
  · intro a hlent build
    exact foldl_building_of_lent hquiet hlent build jobs
  · intro h args start hnone
    exact Command.settles_execute hquiet hnone args

end

theorem quiet_always (reply : Text) : (Supply.always reply).Quiet := fun _ _ _ _ => rfl

/-- Two summarizers are built, since the first one is closed in between. The second batch does not
need one, and the last file does. -/
theorem accounts_of_jobs_folder :
    let s := folder [("a.ts", "x"), ("b.ts", "y")]
    let jobs : List Job := [.annotate [] "a.ts", .close, .annotateAll [] ["a.ts"], .run ["b.ts"]]
    (jobs.foldl (always "s").after s).turns = [.built, .closed, .built] ∧
      Accounts (always "s") s (jobs.foldl (always "s").after s) := by
  refine ⟨by decide +kernel, ?_⟩
  exact (accounts_of_jobs (quiet_always "s") _ (by decide +kernel) rfl _).1

end Service

theorem Client.turnsOf_complete (c : Client) (r : ChatRequest) (w : Wire) :
    turnsOf (c.complete r w).2.1 = [] := by
  apply List.filterMap_eq_nil_iff.mpr
  intro e he
  unfold Client.complete at he
  by_cases hsends : (c.webRequest r).isSendable = true
  · simp only [hsends, Bool.not_true, Bool.false_eq_true, if_false, List.mem_cons,
      List.mem_flatMap, List.not_mem_nil, or_false] at he
    rcases he with rfl | ⟨pause, -, rfl | rfl⟩ <;> rfl
  · simp [hsends] at he

theorem Answer.turnsOf_ofChat (r : ChatRequest) (reply : Except CompletionError Completion)
    {events : List Event} (hnone : turnsOf events = []) :
    turnsOf (Answer.ofChat r reply events).events = [] := by
  unfold Answer.ofChat
  simp only [turnsOf_append, List.append_eq_nil_iff]
  refine ⟨hnone, ?_⟩
  cases Summarizer.summaryOf reply <;> rfl

/-- A completion service has nothing to do with summarizers being built or closed. -/
theorem Supply.quiet_online (h : Host) : (Supply.online h).Quiet := by
  rintro ⟨summarizer, client⟩ path content w
  exact Answer.turnsOf_ofChat _ _ (client.turnsOf_complete (summarizer.request content) w)

end Synopsis
