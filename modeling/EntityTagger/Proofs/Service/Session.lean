import EntityTagger.Proofs.Service.Outcome

/-! Requests one after the other. A tagger is built for the first request that needs one and for
which building succeeds; from then on it is kept, and every request for entities is answered as it
predicts them. -/
namespace EntityTagger.Service

/-- A request, and how a tagger would be built when it arrives. -/
structure Arrival where
  request : Request
  build : Run Tagger

/-- What the service does for arrivals, beginning with a tagger or without one. -/
def serve : Option Tagger → List Arrival → List Exchange
  | _, [] => []
  | tagger, a :: rest =>
    let exchange := handle a.build tagger a.request
    exchange :: serve exchange.tagger rest

def kept : Option Tagger → List Arrival → Option Tagger
  | tagger, [] => tagger
  | tagger, a :: rest => kept (handle a.build tagger a.request).tagger rest

/-- A valid request for entities, at a moment when building a tagger succeeds. -/
def Arrival.Builds (a : Arrival) (t : Tagger) : Prop :=
  (∃ texts, IsExtract a.request texts) ∧ a.build.outcome = .ok t

def NoneBuilt (arrivals : List Arrival) : Prop := ∀ a ∈ arrivals, ∀ t, ¬ a.Builds t

/-- The tagger that the first of the arrivals builds that builds one. -/
def FirstBuilt (arrivals : List Arrival) (t : Tagger) : Prop :=
  ∃ before a after, arrivals = before ++ a :: after ∧ NoneBuilt before ∧ a.Builds t

/-- Building a tagger is attempted for a request after some arrivals: what is done for it depends on
how building would end. -/
def Attempts (before : List Arrival) (r : Request) : Prop :=
  ∃ build build', serve none (before ++ [⟨r, build⟩]) ≠ serve none (before ++ [⟨r, build'⟩])

section Step

variable {r : Request} {texts : List Text} {build : Run Tagger} {tagger : Option Tagger}
  {t : Tagger} {e : Error} {a : Arrival}

/-- Once there is a tagger, how another would be built makes no difference, and it stays. -/
theorem handle_some (build build' : Run Tagger) (t : Tagger) (r : Request) :
    handle build (some t) r = handle build' (some t) r ∧
      (handle build (some t) r).tagger = some t := by
  by_cases hextract : ∃ texts, IsExtract r texts
  · obtain ⟨texts, htexts⟩ := hextract
    rw [htexts.handle_eq, htexts.handle_eq]
    exact ⟨rfl, rfl⟩
  · obtain ⟨reply, hreply⟩ := handle_of_not_isExtract fun texts h => hextract ⟨texts, h⟩
    rw [hreply, hreply]
    exact ⟨rfl, rfl⟩

theorem tagger_handle_none_iff (a : Arrival) (t : Tagger) :
    (handle a.build none a.request).tagger = some t ↔ a.Builds t := by
  by_cases hextract : ∃ texts, IsExtract a.request texts
  · obtain ⟨texts, htexts⟩ := hextract
    rw [htexts.handle_eq]
    cases hbuild : a.build.outcome with
    | ok u =>
      rw [extractWith_of_built hbuild]
      constructor
      · intro h
        obtain rfl := Option.some.inj h
        exact ⟨⟨texts, htexts⟩, hbuild⟩
      · rintro ⟨-, hok⟩
        exact congrArg some (Except.ok.inj (hbuild.symm.trans hok))
    | error e =>
      rw [extractWith_of_unbuilt hbuild]
      constructor
      · intro h
        cases h
      · rintro ⟨-, hok⟩
        simp [hbuild] at hok
  · obtain ⟨reply, hreply⟩ := handle_of_not_isExtract fun texts h => hextract ⟨texts, h⟩
    rw [hreply]
    constructor
    · intro h
      cases h
    · rintro ⟨h, -⟩
      exact absurd h hextract

/-- Without a tagger, how building would end makes a difference for valid requests for entities
only. -/
theorem handle_none_differs_iff : (∃ build build', handle build none r ≠ handle build' none r) ↔
    ∃ texts, IsExtract r texts := by
  constructor
  · rintro ⟨build, build', hdiffer⟩
    by_contra hnot
    obtain ⟨reply, hreply⟩ := handle_of_not_isExtract fun texts h => hnot ⟨texts, h⟩
    exact hdiffer (by rw [hreply, hreply])
  · rintro ⟨texts, htexts⟩
    -- a resource that is missing is told, misuse is not
    refine ⟨.fail (.resource ⟨.weights, none, .fileNotFound⟩), .fail (.misuse .badValue), ?_⟩
    rw [htexts.handle_eq, htexts.handle_eq]
    intro hsame
    cases congrArg Exchange.reply hsame

end Step

section Run

variable {before after : List Arrival} {a : Arrival} {t : Tagger}

theorem serve_append (tagger : Option Tagger) (before after : List Arrival) :
    serve tagger (before ++ after) = serve tagger before ++ serve (kept tagger before) after := by
  induction before generalizing tagger with
  | nil => rfl
  | cons b before ih => rw [List.cons_append, serve, ih, serve, kept, List.cons_append]

theorem kept_some (t : Tagger) (arrivals : List Arrival) : kept (some t) arrivals = some t := by
  induction arrivals with
  | nil => rfl
  | cons a rest ih => rw [kept, (handle_some a.build a.build t a.request).2, ih]

theorem firstBuilt_cons_iff {rest : List Arrival} : FirstBuilt (a :: rest) t ↔
    a.Builds t ∨ (∀ u, ¬ a.Builds u) ∧ FirstBuilt rest t := by
  constructor
  · rintro ⟨before, b, after, hsplit, hnone, hb⟩
    cases before with
    | nil =>
      obtain ⟨rfl, rfl⟩ := List.cons.inj hsplit
      exact Or.inl hb
    | cons c before =>
      obtain ⟨rfl, rfl⟩ := List.cons.inj hsplit
      refine Or.inr ⟨hnone a (List.mem_cons_self ..), before, b, after, rfl, ?_, hb⟩
      exact fun c hc => hnone c (List.mem_cons_of_mem _ hc)
  · rintro (ha | ⟨ha, before, b, after, rfl, hnone, hb⟩)
    · exact ⟨[], a, rest, rfl, by simp [NoneBuilt], ha⟩
    · exact ⟨a :: before, b, after, rfl, List.forall_mem_cons.2 ⟨ha, hnone⟩, hb⟩

theorem kept_none_cons (a : Arrival) (rest : List Arrival) :
    (∃ u, a.Builds u ∧ kept none (a :: rest) = some u) ∨
    (∀ u, ¬ a.Builds u) ∧ kept none (a :: rest) = kept none rest := by
  rw [kept]
  cases htagger : (handle a.build none a.request).tagger with
  | some u =>
    left
    exact ⟨u, (tagger_handle_none_iff a u).1 htagger, kept_some u rest⟩
  | none =>
    right
    refine ⟨?_, rfl⟩
    intro u hu
    simp [(tagger_handle_none_iff a u).2 hu] at htagger

theorem kept_none_iff (arrivals : List Arrival) (t : Tagger) :
    kept none arrivals = some t ↔ FirstBuilt arrivals t := by
  induction arrivals with
  | nil =>
    constructor
    · intro h
      cases h
    · rintro ⟨before, a, after, hsplit, -⟩
      simp at hsplit
  | cons a rest ih =>
    rw [firstBuilt_cons_iff]
    rcases kept_none_cons a rest with ⟨u, hu, hkept⟩ | ⟨hnone, hkept⟩
    · rw [hkept]
      constructor
      · intro h
        obtain rfl := Option.some.inj h
        exact Or.inl hu
      · rintro (ht | ⟨hnone, -⟩)
        · exact congrArg some (Except.ok.inj (hu.2.symm.trans ht.2))
        · exact absurd hu (hnone u)
    · rw [hkept, ih]
      constructor
      · intro h
        exact Or.inr ⟨hnone, h⟩
      · rintro (ht | ⟨-, h⟩)
        · exact absurd ht (hnone t)
        · exact h

theorem kept_none_eq_none_iff (arrivals : List Arrival) :
    kept none arrivals = none ↔ NoneBuilt arrivals := by
  induction arrivals with
  | nil => simp [kept, NoneBuilt]
  | cons a rest ih =>
    rw [NoneBuilt, List.forall_mem_cons]
    rcases kept_none_cons a rest with ⟨u, hu, hkept⟩ | ⟨hnone, hkept⟩
    · rw [hkept]
      constructor
      · intro h
        cases h
      · rintro ⟨hnone, -⟩
        exact absurd hu (hnone u)
    · rw [hkept, ih]
      constructor
      · intro h
        exact ⟨hnone, h⟩
      · rintro ⟨-, h⟩
        exact h

theorem kept_append (tagger : Option Tagger) (before after : List Arrival) :
    kept tagger (before ++ after) = kept (kept tagger before) after := by
  induction before generalizing tagger with
  | nil => rfl
  | cons b before ih => rw [List.cons_append, kept, ih, kept]

theorem attempts_iff_differs {r : Request} : Attempts before r ↔
    ∃ build build', handle build (kept none before) r ≠ handle build' (kept none before) r := by
  simp only [Attempts, serve_append, serve, ne_eq, List.append_cancel_left_eq, List.cons.injEq,
    and_true]

theorem attempts_iff (before : List Arrival) (r : Request) :
    Attempts before r ↔ NoneBuilt before ∧ ∃ texts, IsExtract r texts := by
  rw [attempts_iff_differs, ← kept_none_eq_none_iff]
  cases kept none before with
  | none => rw [handle_none_differs_iff, eq_self, true_and]
  | some t =>
    constructor
    · rintro ⟨build, build', hdiffer⟩
      exact absurd (handle_some build build' t r).1 hdiffer
    · rintro ⟨h, -⟩
      cases h

/-- One tagger alone answers a request for the entities of some texts: what it predicts is replied,
and what is reported is reported on the way there. -/
structure AnsweredBy (t : Tagger) (texts : List Text) (building : List Event)
    (exchange : Exchange) : Prop where
  tagger : exchange.tagger = some t
  events : exchange.events = building ++ ((t.predict (.list (texts.map .str))).events ++
    (Ending.ofPrediction (t.predict (.list (texts.map .str))).outcome).reports)
  reply : exchange.reply =
    (Ending.ofPrediction (t.predict (.list (texts.map .str))).outcome).reply

/-- How an arrival is served after the ones before it. -/
structure Serves (before : List Arrival) (a : Arrival) (exchange : Exchange) : Prop where
  /-- A tagger is built for a valid request for entities, unless one was built before. -/
  attempts : Attempts before a.request ↔ NoneBuilt before ∧ ∃ texts, IsExtract a.request texts
  /-- What is kept is the first tagger that was built. -/
  keeps : ∀ t, exchange.tagger = some t ↔ FirstBuilt (before ++ [a]) t
  /-- Any other request changes nothing. -/
  other : (∀ texts, ¬ IsExtract a.request texts) →
    exchange.events = [] ∧ ∀ t, exchange.tagger = some t ↔ FirstBuilt before t
  /-- An attempt that fails changes nothing either; its error is replied. -/
  failed : ∀ texts e, IsExtract a.request texts → NoneBuilt before → a.build.outcome = .error e →
    exchange = ⟨none, a.build.events ++ (Ending.unbuilt e).reports, (Ending.unbuilt e).reply⟩
  /-- The tagger that is built answers the request itself. -/
  built : ∀ texts t, IsExtract a.request texts → NoneBuilt before → a.build.outcome = .ok t →
    AnsweredBy t texts a.build.events exchange
  /-- From then on it alone answers, however another would be built. -/
  kept : ∀ texts t, IsExtract a.request texts → FirstBuilt before t →
    AnsweredBy t texts [] exchange

theorem serves (before : List Arrival) (a : Arrival) :
    Serves before a (handle a.build (kept none before) a.request) where
  attempts := attempts_iff before a.request
  keeps t := by
    rw [← kept_none_iff, kept_append]
    rfl
  other hother := by
    obtain ⟨reply, hreply⟩ := handle_of_not_isExtract hother
    rw [hreply]
    exact ⟨rfl, kept_none_iff before⟩
  failed texts e htexts hnone hbuild := by
    rw [(kept_none_eq_none_iff before).2 hnone, htexts.handle_eq, extractWith_of_unbuilt hbuild]
  built texts t htexts hnone hbuild := by
    rw [(kept_none_eq_none_iff before).2 hnone, htexts.handle_eq, extractWith_of_built hbuild,
      extract_eq htexts.ne_nil]
    exact ⟨rfl, rfl, rfl⟩
  kept texts t htexts hfirst := by
    rw [(kept_none_iff before t).2 hfirst, htexts.handle_eq, extractWith, extract_eq htexts.ne_nil]
    exact ⟨rfl, rfl, rfl⟩

def failing : Arrival := ⟨offOnRequest, .fail (.misuse .badValue)⟩

def building : Arrival := ⟨offOnRequest, pure Tagger.twoWords⟩

end Run

end EntityTagger.Service
