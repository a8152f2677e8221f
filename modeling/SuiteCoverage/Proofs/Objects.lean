import SuiteCoverage.Proofs.Pipeline.Recast

/-!
# The objects of a session

A session passes the objects that it has been given on to its collector when it is stopped: each
path once, at the place and in the spelling in which it was given first. What has been given and
what is passed on are lists, and the one is told from the other by position (`Pathname.firsts`), so
the lists that a collector gets in the course of a history are told from the requests alone.

The lists are read off a collector that takes note of them. It can be seen through to the collector
that does not, so nothing else about a session or a run depends on the notes.
-/

set_option autoImplicit false

namespace SuiteCoverage

/-! ## Each path once -/

namespace Pathname

/-- The paths before which the same path does not stand. -/
def firsts (paths : List Pathname) : List Pathname :=
  (paths.zipIdx.filter fun (path, i) => !(paths.take i).any path.same).map Prod.fst

/-- A path at the end of a list is left out if the same path stands before it. -/
theorem firsts_concat (paths : List Pathname) (path : Pathname) :
    firsts (paths ++ [path])
      = firsts paths ++ if paths.any path.same = true then [] else [path] := by
  -- Nothing in the list is looked for beyond its own place.
  have hbefore : paths.zipIdx.filter (fun (path', i) =>
        !((paths ++ [path]).take i).any path'.same)
      = paths.zipIdx.filter fun (path', i) => !(paths.take i).any path'.same := by
    refine List.filter_congr fun ⟨path', i⟩ hmem => ?_
    have hi : i < paths.length := by simpa using (List.mem_zipIdx hmem).2.1
    simp only [List.take_append_of_le_length (Nat.le_of_lt hi)]
  rw [firsts, List.zipIdx_append, List.filter_append, List.map_append, hbefore, firsts]
  by_cases hknown : paths.any path.same = true <;> simp [hknown]

/-- Every path stands among the first ones, whatever its spelling there. -/
theorem any_firsts (paths : List Pathname) (path : Pathname) :
    (firsts paths).any path.same = paths.any path.same := by
  induction paths using List.reverseRec with
  | nil => rfl
  | append_singleton paths last ih =>
    rw [firsts_concat, List.any_append, List.any_append, ih]
    by_cases hknown : paths.any last.same = true
    · -- Whatever is the same as the last path is the same as one before it.
      obtain ⟨other, hother, hsame⟩ := List.any_eq_true.1 hknown
      have hlast : path.same last = true → paths.any path.same = true := fun h =>
        List.any_eq_true.2 ⟨other, hother, same_trans h hsame⟩
      rw [if_pos hknown]
      cases h : path.same last <;> simp [h, hlast]
    · rw [if_neg hknown]

/-- What is known already adds nothing. -/
theorem firsts_append_of_known {paths more : List Pathname}
    (h : ∀ path ∈ more, paths.any path.same = true) : firsts (paths ++ more) = firsts paths := by
  induction more using List.reverseRec with
  | nil => rw [List.append_nil]
  | append_singleton more path ih =>
    rw [List.forall_mem_append, List.forall_mem_singleton] at h
    rw [← List.append_assoc, firsts_concat, ih h.1, if_pos (by rw [List.any_append, h.2]; rfl),
      List.append_nil]

/-- More paths change nothing about the first ones of those before them. -/
theorem firsts_isPrefix (paths more : List Pathname) : firsts paths <+: firsts (paths ++ more) := by
  induction more using List.reverseRec with
  | nil => simp
  | append_singleton more path ih =>
    rw [← List.append_assoc, firsts_concat]
    exact ih.trans (List.prefix_append _ _)

/-- No two of the first paths are the same. -/
theorem pairwise_firsts (paths : List Pathname) :
    (firsts paths).Pairwise fun path other => path.same other = false := by
  induction paths using List.reverseRec with
  | nil => exact .nil
  | append_singleton paths path ih =>
    rw [firsts_concat]
    by_cases hknown : paths.any path.same = true
    · rwa [if_pos hknown, List.append_nil]
    rw [if_neg hknown, List.pairwise_append]
    refine ⟨ih, List.pairwise_singleton _ _, fun other hother last hlast => ?_⟩
    obtain rfl := List.mem_singleton.1 hlast
    rw [← any_firsts, Bool.not_eq_true, List.any_eq_false] at hknown
    rw [Bool.eq_false_iff]
    exact fun hsame => hknown other hother (same_symm hsame)

/-- Only what is relative is put behind a directory. -/
theorem map_join (directory : Pathname) (paths : List Pathname) :
    paths.map directory.join
      = paths.map fun path => if path.isAbsolute then path else directory.join path := by
  refine List.map_congr_left fun path _ => ?_
  unfold join
  split <;> rfl

end Pathname

/-! ## The objects of a session -/

namespace Session

variable {κ σ : Type}

theorem insertObject_firsts (paths : List Pathname) (object : Pathname) :
    insertObject (Pathname.firsts paths) object = Pathname.firsts (paths ++ [object]) := by
  rw [insertObject, Pathname.any_firsts, Pathname.firsts_concat]
  split
  · rw [List.append_nil]
  · rfl

/-- A session that has the first of some paths gets the first of more. -/
theorem foldl_insertObject_firsts (paths objects : List Pathname) :
    objects.foldl insertObject (Pathname.firsts paths) = Pathname.firsts (paths ++ objects) := by
  induction objects generalizing paths with
  | nil => rw [List.append_nil, List.foldl_nil]
  | cons object rest ih =>
    rw [List.foldl_cons, insertObject_firsts, ih, List.append_assoc, List.singleton_append]

/-- The objects that a request adds. -/
def Request.objects : Request σ → List Pathname
  | .addObjects objects => objects
  | _ => []

/-- All the objects that have been added in a history, in order. -/
def added (turns : List (Turn σ)) : List Pathname := turns.flatMap (·.request.objects)

theorem added_concat (turns : List (Turn σ)) (turn : Turn σ) :
    added (turns ++ [turn]) = added turns ++ turn.request.objects := by
  simp [added]

/-- Nothing but adding objects changes the objects. -/
theorem objects_next (collector : Collector κ) (session : Session κ) (turn : Turn σ) :
    (session.next collector turn).objects
      = turn.request.objects.foldl insertObject session.objects := by
  obtain ⟨request, w⟩ := turn
  have hmoves := moves collector session ⟨request, w⟩
  cases request with
  | addObjects objects => rfl
  | _ =>
    show _ = session.objects
    generalize session.next collector _ = next, (session.perform collector _).1 = result at hmoves ⊢
    cases hmoves with
    | extended hrequest => cases hrequest
    | _ => rfl

/-- A session has the first of the objects that have been added. -/
theorem objects_after (collector : Collector κ) (settings : Settings) (state : κ)
    (turns : List (Turn σ)) :
    ((ofSettings settings state).after collector turns).objects
      = Pathname.firsts (added turns) := by
  induction turns using List.reverseRec with
  | nil => rfl
  | append_singleton turns turn ih =>
    rw [after_concat, objects_next, ih, foldl_insertObject_firsts, added_concat]

end Session

/-! ## Taking note of what a collector gets -/

/-- The collector with a list of the lists that it gets when it is asked to finish. -/
def Collector.noting {κ : Type} (collector : Collector κ) :
    Collector (κ × List (List Pathname)) where
  begin directory state w :=
    let asked := collector.begin directory state.1 w
    (asked.1, (asked.2.1, state.2), asked.2.2)
  finish objects state w :=
    let asked := collector.finish objects state.1 w
    (asked.1, (asked.2.1, state.2 ++ [objects]), asked.2.2)

/-- Without the list, a collector that takes note is the collector. -/
theorem Collector.mirrors_noting {κ : Type} (collector : Collector κ) :
    collector.noting.Mirrors Prod.fst collector where
  begin _ _ _ := rfl
  finish _ _ _ := rfl

namespace Session

variable {κ σ : Type}

/-- The lists that the collector of a session has got. -/
def lists (session : Session (κ × List (List Pathname))) : List (List Pathname) :=
  session.collector.2

/-- A start gives the collector no list. -/
theorem lists_start (collector : Collector κ) (session : Session (κ × List (List Pathname)))
    (w : World) : (session.start collector.noting w).2.1.lists = session.lists := by
  rcases hstart : session.start collector.noting w with ⟨result, last, next⟩
  cases starts hstart with
  | refused e => rfl
  | unbegun _ _ _ hbegin => exact congrArg (·.2.1.2) hbegin.symm
  | begun _ _ _ hbegin => exact congrArg (·.2.1.2) hbegin.symm

/-- A stop gives the collector the objects if the session is started. -/
theorem lists_stop (collector : Collector κ) {session : Session (κ × List (List Pathname))}
    (hstage : session.stage = .started) (w : World) :
    (session.stop collector.noting w).2.1.lists = session.lists ++ [session.objects] := by
  rcases hstop : session.stop collector.noting w with ⟨result, last, next⟩
  cases stops hstop with
  | refused _ hother => exact absurd hstage hother
  | unfinished _ hfinish => exact congrArg (·.2.1.2) hfinish.symm
  | stranded _ hfinish _ => exact congrArg (·.2.1.2) hfinish.symm
  | finished _ hfinish _ => exact congrArg (·.2.1.2) hfinish.symm

/-- A request that does not stop a started session gives the collector no list. -/
theorem lists_next (collector : Collector κ) {session : Session (κ × List (List Pathname))}
    {turn : Turn σ} (h : turn.request = .stop → session.stage ≠ .started) :
    (session.next collector.noting turn).lists = session.lists := by
  by_cases hstart : turn.request = .start
  · rw [next, perform, hstart]
    exact lists_start collector session turn.world
  by_cases hstop : turn.request = .stop
  · rw [next, perform, hstop]
    exact congrArg (·.2.1.lists) (stop_of_not_started collector.noting (h hstop) turn.world)
  · exact congrArg Prod.snd (next_of_quiet collector.noting session hstart hstop).1

/-- What a collector has got in a history: first ones of the objects that had been added by then,
    each list an extension of those before it. -/
theorem lists_after (collector : Collector κ) (settings : Settings) (state : κ)
    (turns : List (Turn σ)) :
    let lists := ((ofSettings settings (state, [])).after collector.noting turns).lists
    (∀ list ∈ lists, list <+: Pathname.firsts (added turns)) ∧ lists.Pairwise (· <+: ·) := by
  induction turns using List.reverseRec with
  | nil => exact ⟨nofun, .nil⟩
  | append_singleton turns turn ih =>
    have hobjects := objects_after collector.noting settings (state, []) turns
    rw [after_concat, added_concat]
    generalize (ofSettings settings (state, [])).after collector.noting turns = session
      at ih hobjects ⊢
    have hearlier : ∀ list ∈ session.lists,
        list <+: Pathname.firsts (added turns ++ turn.request.objects) := fun list hlist =>
      (ih.1 list hlist).trans (Pathname.firsts_isPrefix _ _)
    -- Only the stop of a started session gives a list, and that is of all that was added before it.
    by_cases hasked : turn.request = .stop ∧ session.stage = .started
    · have hlists : (session.next collector.noting turn).lists
          = session.lists ++ [session.objects] := by
        rw [next, perform, hasked.1]
        exact lists_stop collector hasked.2 turn.world
      simp only [hlists, hobjects, List.forall_mem_append, List.forall_mem_singleton,
        List.pairwise_append]
      exact ⟨⟨hearlier, Pathname.firsts_isPrefix _ _⟩, ih.2, List.pairwise_singleton _ _, ih.1⟩
    · rw [lists_next collector fun hstop hstage => hasked ⟨hstop, hstage⟩]
      exact ⟨hearlier, ih.2⟩

end Session

/-! ## The objects of a run -/

namespace Pipeline

variable {κ σ τ : Type} {collector : Collector κ} {engine : Engine σ} {options : RunOptions}

/-- A run reads the directory in which it starts before it enters another. -/
theorem origin_of_prepare {before ready : Progress κ σ τ} {origin : Pathname}
    {relocation : Relocation}
    (h : outcome (prepare options) before = (.ok (origin, relocation), ready)) :
    before.world.currentDirectory = .ok origin := by
  have hkeeps : Keeps (·.world) (configure options.marker : Part κ σ τ Unit) :=
    Keeps.bind (keeps_setOption (fun _ _ => rfl) _ _) fun _ => keeps_setOption (fun _ _ => rfl) _ _
  rw [prepare] at h
  rcases hconfigured : outcome (configure options.marker) before with ⟨failure | _, configured⟩
  · rw [outcome_bind_error hconfigured] at h
    cases h
  -- Options are set without a change to the world, so the directory is still that of the start.
  have hworld : configured.world = before.world := hkeeps.eq_of_outcome hconfigured
  rw [outcome_bind_ok hconfigured, outcome_bind, outcome_readDirectory, hworld] at h
  cases hdirectory : before.world.currentDirectory with
  | error fault =>
    rw [hdirectory] at h
    cases h
  | ok directory =>
    rw [hdirectory] at h
    simp only [Except.mapError] at h
    rcases hentered : outcome (enterDirectory options.workingRoot options.configuration) configured
      with ⟨failure | entered, last⟩
    · rw [outcome_bind_error hentered] at h
      cases h
    · rw [outcome_bind_ok hentered] at h
      cases h
      rfl

/-- A run from a state finds a suite, once its session has been started; it started in the
    directory `origin`. -/
def Finds (engine : Engine σ) (collector : Collector κ) (options : RunOptions)
    (before : Progress κ σ τ) (origin : Pathname) (suite : Suite) : Prop :=
  ∃ relocation ready started,
    outcome (prepare options) before = (.ok (origin, relocation), ready) ∧
    outcome (start collector) ready = (.ok (), started) ∧
    engine.discover started.world (testsDirectory options origin) = .ok suite

/-- A run finds the suite that it is seen to find. -/
theorem finds_recast_iff {κ' : Type} {view : κ → κ'} {image : Collector κ'}
    (h : collector.Mirrors view image) (before : Progress κ σ τ) {origin : Pathname}
    {suite : Suite} :
    Finds engine image options (before.recast view id) origin suite
      ↔ Finds engine collector options before origin suite := by
  have hprepared := mirrors_prepare view id options before
  constructor
  · rintro ⟨relocation, ready, started, hprepare, hstart, hdiscover⟩
    rcases hready : outcome (prepare options) before with ⟨result, ready'⟩
    rw [hprepare, hready, Prod.mk.injEq] at hprepared
    obtain ⟨rfl, rfl⟩ := hprepared
    have hstarted := mirrors_start h ready'
    rcases hstart' : outcome (start collector) ready' with ⟨result, started'⟩
    rw [hstart, hstart', Prod.mk.injEq] at hstarted
    obtain ⟨rfl, rfl⟩ := hstarted
    exact ⟨relocation, ready', started', hready, hstart', hdiscover⟩
  · rintro ⟨relocation, ready, started, hprepare, hstart, hdiscover⟩
    refine ⟨relocation, ready.recast view id, started.recast view id, ?_, ?_, hdiscover⟩
    · rw [hprepared, hprepare]
    · rw [mirrors_start h ready, hstart]

/-- A run finds one suite at most. -/
theorem Finds.unique {before : Progress κ σ τ} {origin origin' : Pathname} {suite suite' : Suite}
    (h : Finds engine collector options before origin suite)
    (h' : Finds engine collector options before origin' suite') :
    origin = origin' ∧ suite = suite' := by
  obtain ⟨_, _, _, hprepare, hstart, hdiscover⟩ := h
  obtain ⟨_, _, _, hprepare', hstart', hdiscover'⟩ := h'
  cases hprepare.symm.trans hprepare'
  cases hstart.symm.trans hstart'
  cases hdiscover.symm.trans hdiscover'
  exact ⟨rfl, rfl⟩

variable {before ready started ran last : Progress (κ × List (List Pathname)) σ τ}

/-- Until the session has been started it has the objects that it had, and no list has been given
    to the collector. -/
theorem kept_until_started {prepared : Except Failure (Pathname × Relocation)}
    {result : Except Failure Unit}
    (hprepare : outcome (prepare options) before = (prepared, ready))
    (hstart : outcome (start collector.noting) ready = (result, started)) :
    started.session.objects = before.session.objects ∧
      started.session.lists = before.session.lists := by
  have hkeeps : Keeps (fun p => (p.session.objects, p.session.lists))
      (prepare options : Part (κ × List (List Pathname)) σ τ (Pathname × Relocation)) :=
    keeps_prepare (fun _ _ => rfl) (fun _ _ _ => rfl) options
  have hready := hkeeps.eq_of_outcome hprepare
  rw [Prod.mk.injEq] at hready
  rw [outcome_start] at hstart
  cases hstart
  have hobjects := Session.objects_next collector.noting ready.session
    (⟨.start, ready.world⟩ : Session.Turn Unit)
  have hlists := Session.lists_start collector ready.session ready.world
  exact ⟨hobjects.trans hready.1, hlists.trans hready.2⟩

/-- A stop after the tests gives the collector the programs of the tests and the objects of the
    options. -/
theorem lists_of_stop {origin : Pathname} {suite : Suite} {run : Except Failure Run}
    {result : Except Failure Unit} (hstage : started.session.stage = .started)
    (hobjects : started.session.objects = [])
    (hexercise : outcome (exercise engine options origin suite) started = (run, ran))
    (hstop : outcome (stop collector.noting) ran = (result, last)) :
    last.session.lists = started.session.lists ++
      [Pathname.firsts (suite.executables ++ options.objects.map origin.join)] := by
  rw [outcome_exercise] at hexercise
  cases hexercise
  rw [outcome_stop] at hstop
  cases hstop
  refine (Session.lists_stop collector ?_ _).trans ?_
  · exact hstage
  have hadded : ((started.session.addObjects suite.executables).addObjects
        (options.objects.map origin.join)).objects
      = Pathname.firsts (suite.executables ++ options.objects.map origin.join) := by
    simp only [Session.addObjects, hobjects]
    rw [← List.foldl_append]
    exact Session.foldl_insertObject_firsts [] _
  rw [← hadded]
  rfl

/-- However a run ends, its collector gets one list if a suite has been found, and otherwise none;
    then the run fails. -/
theorem lists_of_ends {output : Stream τ} {result : Except Failure Summary}
    (hends : Ends ⟨engine, collector.noting, output⟩ options before result last)
    (hobjects : before.session.objects = []) (hlists : before.session.lists = []) :
    (last.session.lists = [] ∧ result.isOk = false ∧
        ∀ origin suite, ¬ Finds engine collector.noting options before origin suite) ∨
      ∃ origin suite, Finds engine collector.noting options before origin suite ∧
        last.session.lists
          = [Pathname.firsts (suite.executables ++ options.objects.map origin.join)] := by
  cases hends with
  | unprepared hprepare =>
    have hlast := (keeps_collector_prepare options).eq_of_outcome hprepare
    refine .inl ⟨(congrArg Prod.snd hlast).trans hlists, rfl, ?_⟩
    rintro origin suite ⟨_, _, _, hprepared, -, -⟩
    cases hprepare.symm.trans hprepared
  | unstarted hprepare hstart =>
    refine .inl ⟨(kept_until_started hprepare hstart).2.trans hlists, rfl, ?_⟩
    rintro origin suite ⟨_, _, _, hprepared, hstarted, -⟩
    cases hprepare.symm.trans hprepared
    cases hstart.symm.trans hstarted
  | undiscovered hprepare hstart hdiscover =>
    refine .inl ⟨(kept_until_started hprepare hstart).2.trans hlists, rfl, ?_⟩
    rintro origin suite ⟨_, _, _, hprepared, hstarted, hdiscovered⟩
    cases hprepare.symm.trans hprepared
    cases hstart.symm.trans hstarted
    cases hdiscover.symm.trans hdiscovered
  | unstopped hprepare hstart hdiscover hexercise hstop =>
    obtain ⟨hkept, hnone⟩ := kept_until_started hprepare hstart
    refine .inr ⟨_, _, ⟨_, _, _, hprepare, hstart, hdiscover⟩, ?_⟩
    rw [lists_of_stop (stage_of_start hstart) (hkept.trans hobjects) hexercise hstop, hnone, hlists]
    rfl
  | stopped hprepare hstart hdiscover hexercise hstop hconclude =>
    obtain ⟨hkept, hnone⟩ := kept_until_started hprepare hstart
    have hlast := (keeps_session_conclude _ _ _ _).eq_of_outcome hconclude
    refine .inr ⟨_, _, ⟨_, _, _, hprepare, hstart, hdiscover⟩, ?_⟩
    rw [hlast, lists_of_stop (stage_of_start hstart) (hkept.trans hobjects) hexercise hstop, hnone,
      hlists]
    rfl

/-- A collector gets every object once, in the order and in the spelling in which the objects were
    added first. In every history of a session the list that it gets at a stop is made of the first
    ones of the objects added so far; no list has the same path twice, each is the beginning of
    those after it, and objects that are known change nothing. In a run that finds its tests it
    gets one list: the programs of the tests and then the objects of the options, those that are
    relative from where the run starts. A run that does not find them fails, and gives it none.
    Taking note of the lists changes nothing about a session or a run. -/
theorem every_object_once (collector : Collector κ) (settings : Settings) (state : κ) :
    (∀ turns : List (Session.Turn τ),
      let plain := (Session.ofSettings settings state).after collector turns
      let noted := (Session.ofSettings settings (state, [])).after collector.noting turns
      noted.seen Prod.fst = plain ∧
      (∀ turn : Session.Turn τ, turn.request = .stop → plain.stage = .started →
        (noted.next collector.noting turn).lists
          = noted.lists ++ [Pathname.firsts (Session.added turns)]) ∧
      (∀ turn : Session.Turn τ, (turn.request = .stop → plain.stage ≠ .started) →
        (noted.next collector.noting turn).lists = noted.lists) ∧
      (∀ list ∈ noted.lists, list.Pairwise fun path other => path.same other = false) ∧
      noted.lists.Pairwise (· <+: ·) ∧
      ∀ objects, (∀ object ∈ objects, (Session.added turns).any object.same = true) →
        plain.addObjects objects = plain) ∧
    ∀ (engine : Engine σ) (stream : Stream τ) (options : RunOptions) (w : World) (console : σ)
      (output : τ),
      let fresh : Progress κ σ τ := ⟨.ofSettings settings state, w, console, output⟩
      let plain := outcome (run ⟨engine, collector, stream⟩ options) fresh
      let noted := outcome (run ⟨engine, collector.noting, stream⟩ options)
        ⟨.ofSettings settings (state, []), w, console, output⟩
      noted.1 = plain.1 ∧ noted.2.recast Prod.fst id = plain.2 ∧
      (∀ origin suite, Finds engine collector options fresh origin suite →
        w.currentDirectory = .ok origin ∧
        noted.2.session.lists
          = [Pathname.firsts (suite.executables ++ options.objects.map fun object =>
              if object.isAbsolute then object else origin.join object)]) ∧
      ((∀ origin suite, ¬ Finds engine collector options fresh origin suite) →
        noted.2.session.lists = [] ∧ plain.1.isOk = false) := by
  refine ⟨fun turns => ?_, fun engine stream options w console output => ?_⟩
  · intro plain noted
    have hseen : noted.seen Prod.fst = plain :=
      (Session.after_seen collector.mirrors_noting _ turns).symm
    have hstage : plain.stage = noted.stage := congrArg Session.stage hseen.symm
    have hobjects : noted.objects = Pathname.firsts (Session.added turns) :=
      Session.objects_after collector.noting settings (state, []) turns
    obtain ⟨hprefixes, hordered⟩ := Session.lists_after collector settings state turns
    refine ⟨hseen, fun turn hstop hstarted => ?_, fun turn hquiet => ?_, fun list hlist => ?_,
      hordered, fun objects hknown => ?_⟩
    · rw [Session.next, Session.perform, hstop, ← hobjects]
      exact Session.lists_stop collector (hstage.symm.trans hstarted) turn.world
    · exact Session.lists_next collector fun hstop hstarted =>
        hquiet hstop (hstage.trans hstarted)
    · exact (Pathname.pairwise_firsts _).sublist (hprefixes list hlist).sublist
    · have hplain : plain.objects = Pathname.firsts (Session.added turns) :=
        Session.objects_after collector settings state turns
      rw [Session.addObjects, hplain, Session.foldl_insertObject_firsts,
        Pathname.firsts_append_of_known hknown, ← hplain]
  · intro fresh plain noted
    have hsame : plain = (noted.1, noted.2.recast Prod.fst id) :=
      mirrors_run collector.mirrors_noting engine stream options
        ⟨.ofSettings settings (state, []), w, console, output⟩
    have hends := ends ⟨engine, collector.noting, stream⟩ options
      ⟨.ofSettings settings (state, []), w, console, output⟩
    have hfinds {origin : Pathname} {suite : Suite} :
        Finds engine collector options fresh origin suite ↔ Finds engine collector.noting options
          ⟨.ofSettings settings (state, []), w, console, output⟩ origin suite :=
      finds_recast_iff collector.mirrors_noting
        ⟨.ofSettings settings (state, []), w, console, output⟩
    rw [hsame]
    refine ⟨rfl, rfl, fun origin suite hfound => ?_, fun hnone => ?_⟩
    · obtain ⟨_, _, _, hprepare, -⟩ := id hfound
      refine ⟨origin_of_prepare hprepare, ?_⟩
      obtain ⟨-, -, hnone⟩ | ⟨_, _, hfound', hlists⟩ := lists_of_ends hends rfl rfl
      · exact absurd (hfinds.1 hfound) (hnone origin suite)
      · obtain ⟨rfl, rfl⟩ := (hfinds.1 hfound).unique hfound'
        exact origin.map_join options.objects ▸ hlists
    · obtain ⟨hlists, hfailed, -⟩ | ⟨origin, suite, hfound, -⟩ := lists_of_ends hends rfl rfl
      · exact ⟨hlists, hfailed⟩
      · exact absurd (hfinds.2 hfound) (hnone origin suite)

end Pipeline
end SuiteCoverage
