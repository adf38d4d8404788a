import PoliteCrawl.Proofs.Crawl.Pages

set_option autoImplicit false

namespace PoliteCrawl.Crawl

def flying (frontier : Frontier) (key : String) : List CrawlUri :=
  if (frontier.lane key).busy then (frontier.line key).head?.toList else []

def tally (dispatched finished : Nat) : Stats :=
  { Stats.zero with dispatched, succeeded := finished }

-- The queues and the filter hold what the explorations of all sites have yet to do.
structure Explored (workers : WorkerConfig) (seeds : String → List CrawlUri) (frontier : Frontier)
    (dispatched finished : List CrawlUri) : Prop where
  sound : frontier.Sound
  knows : ∃ filter, frontier.Knows finished filter
  reached : ∀ key, ∃ rounds, Exploration.after workers (seeds key) rounds =
    { emitted := atSite key finished, todo := frontier.line key }
  order : ∀ key, atSite key dispatched = atSite key finished ++ flying frontier key
  score : frontier.stats.score = tally dispatched.length finished.length

section Explored

variable {workers : WorkerConfig} {seeds : String → List CrawlUri} {before after : Frontier}
  {dispatched finished : List CrawlUri}

theorem Explored.keeps (explored : Explored workers seeds before dispatched finished)
    (keeps : before.Keeps after) : Explored workers seeds after dispatched finished where
  sound := keeps.sound
  knows := explored.knows.imp fun _ knows => keeps.knows knows
  reached key := by
    rw [keeps.line]
    exact explored.reached key
  order key := by
    rw [explored.order key, flying, flying, keeps.line, keeps.busy key]
  score := keeps.score.trans explored.score

theorem at_site_self (uri : CrawlUri) : atSite uri.siteKey [uri] = [uri] := by
  simp [atSite]

theorem at_site_other (key : String) (uri : CrawlUri) (different : key ≠ uri.siteKey) :
    atSite key [uri] = [] := by
  simp [atSite, Ne.symm different]

theorem Explored.hands {uri : CrawlUri}
    (explored : Explored workers seeds before dispatched finished) (hands : before.Hands after uri) :
    Explored workers seeds after (dispatched ++ [uri]) finished where
  sound := hands.sound
  knows := explored.knows.imp fun _ knows => hands.knows knows
  reached key := by
    rw [hands.line]
    exact explored.reached key
  order key := by
    have order := explored.order key
    rw [at_site_append, order, flying, flying, hands.line, hands.busy key, List.append_assoc]
    refine congrArg _ ?_
    by_cases here : key = uri.siteKey
    · rw [here, at_site_self, hands.idle, hands.head]
      simp
    · rw [at_site_other key uri here, List.append_nil]
      simp [here]
  score := by
    rw [hands.score, explored.score, List.length_append]
    rfl

-- A page in flight that was reported: it is gone from its line, and its new links are at the end.
structure Reports (workers : WorkerConfig) (finished : List CrawlUri) (uri : CrawlUri)
    (before after : Frontier) : Prop where
  sound : after.Sound
  knows : ∃ filter, after.Knows (finished ++ [uri]) filter
  idle : (after.lane uri.siteKey).busy = false
  busy : ∀ key, key ≠ uri.siteKey → (after.lane key).busy = (before.lane key).busy
  head : (before.line uri.siteKey).head? = some uri
  tail : after.line uri.siteKey = (before.line uri.siteKey).tail ++
    unseen ((atSite uri.siteKey finished ++ before.line uri.siteKey).map CrawlUri.uniqKey)
      (links workers uri)
  line : ∀ key, key ≠ uri.siteKey → after.line key = before.line key
  score : after.stats.score =
    { before.stats.score with succeeded := before.stats.score.succeeded + 1 }
  finish : after.target = .finish ↔ before.target = .finish

theorem completed_knows {filter : UniqFilter} {uri : CrawlUri} (knows : before.Knows finished filter)
    (completes : before.Completes after uri) (head : (before.line uri.siteKey).head? = some uri) :
    after.Knows (finished ++ [uri]) filter := by
  refine ⟨completes.record.trans knows.record, fun other home => ?_, ?_⟩
  · rw [knows.seen other home, at_site_append, completes.line]
    by_cases same : Url.siteIn other.uniqKey = uri.siteKey
    · obtain ⟨rest, line⟩ := List.head?_eq_some_iff.mp head
      rw [if_pos same, same, at_site_self, line, List.append_assoc]
      rfl
    · rw [if_neg same, at_site_other _ uri same, List.append_nil]
  · have less := completes.total
    rw [knows.added, List.length_append, List.length_singleton]
    omega

theorem Explored.reports {uri : CrawlUri} (outcome : Outcome) (code : Nat)
    (success : outcome.status = .success code)
    (explored : Explored workers seeds before dispatched finished)
    (unfinished : before.target ≠ .finish) (busy : (before.lane uri.siteKey).busy = true)
    (head : (before.line uri.siteKey).head? = some uri) :
    Reports workers finished uri before
      (((discoverLinks workers uri).foldl Simulation.offer before).complete uri outcome).1 := by
  obtain ⟨_, knows⟩ := explored.knows
  have housed := explored.sound.housed uri.siteKey uri (List.mem_of_mem_head? head)
  have gains := Frontier.offer_gains before finished (discoverLinks workers uri) _
    explored.sound knows unfinished fun link member =>
      (discovered_rooted workers uri.siteKey uri link housed member).1
  generalize (discoverLinks workers uri).foldl Simulation.offer before = grown at gains ⊢
  obtain ⟨rest, first⟩ := List.head?_eq_some_iff.mp head
  have here : grown.line uri.siteKey = uri :: (rest ++
      unseen ((atSite uri.siteKey finished ++ before.line uri.siteKey).map CrawlUri.uniqKey)
        (links workers uri)) := by
    rw [gains.line uri.siteKey, ← links, links_here workers uri.siteKey uri housed, first]
    rfl
  have elsewhere (key : String) (different : key ≠ uri.siteKey) :
      grown.line key = before.line key := by
    rw [gains.line key, ← links, links_elsewhere workers uri.siteKey key uri housed different]
    exact List.append_nil _
  have front : (grown.line uri.siteKey).head? = some uri := by
    rw [here]
    rfl
  have completes := Frontier.complete_takes grown uri outcome code success gains.sound
    (gains.lane ▸ busy) front
  have target : grown.target = before.target := congrArg StateCell.target gains.cell
  refine ⟨completes.sound, gains.knows.imp fun _ known => completed_knows known completes front,
    ?_, fun key different => ?_, head, ?_, fun key different => ?_, ?_, ?_⟩
  · rw [completes.busy, if_pos rfl]
  · rw [completes.busy, if_neg different, gains.lane]
  · rw [completes.line, if_pos rfl, here, first]
    rfl
  · rw [completes.line, if_neg different, elsewhere key different]
  · rw [completes.score, gains.score]
  · rw [completes.finish, target]

theorem Explored.report {uri : CrawlUri}
    (explored : Explored workers seeds before dispatched finished)
    (reports : Reports workers finished uri before after)
    (busy : (before.lane uri.siteKey).busy = true) :
    Explored workers seeds after dispatched (finished ++ [uri]) where
  sound := reports.sound
  knows := reports.knows
  reached key := by
    obtain ⟨rounds, reached⟩ := explored.reached key
    by_cases same : key = uri.siteKey
    · subst same
      obtain ⟨rest, first⟩ := List.head?_eq_some_iff.mp reports.head
      refine ⟨rounds + 1, ?_⟩
      rw [Exploration.after, reached, at_site_append, at_site_self, reports.tail]
      simp only [Exploration.advance, first, Exploration.seen, List.tail_cons]
    · refine ⟨rounds, ?_⟩
      rw [reached, at_site_append, at_site_other key uri same, List.append_nil,
        reports.line key same]
  order key := by
    rw [explored.order key, at_site_append, flying, flying]
    by_cases same : key = uri.siteKey
    · subst same
      rw [reports.idle, busy, reports.head, at_site_self]
      simp
    · rw [reports.busy key same, reports.line key same, at_site_other key uri same,
        List.append_nil]
  score := by
    rw [reports.score, explored.score, List.length_append]
    rfl

end Explored

def WorkerPhase.fetched? : WorkerPhase → Option CrawlUri
  | .fetching uri _ => some uri
  | _ => none

namespace Simulation

def phase? (simulation : Simulation) (id : Nat) : Option WorkerPhase :=
  (simulation.worker? id).map (·.phase)

end Simulation

def assign (phases : Nat → Option WorkerPhase) (id : Nat) (phase : WorkerPhase) :
    Nat → Option WorkerPhase :=
  fun other => if other = id then some phase else phases other

-- A worker that fetches a page holds the first of its line, and no two hold pages of one site.
structure Staffed (frontier : Frontier) (phases : Nat → Option WorkerPhase) : Prop where
  holds : ∀ id uri until_, phases id = some (.fetching uri until_) →
    (frontier.lane uri.siteKey).busy = true ∧ (frontier.line uri.siteKey).head? = some uri
  alone : ∀ id other mine theirs now later, phases id = some (.fetching mine now) →
    phases other = some (.fetching theirs later) → mine.siteKey = theirs.siteKey → id = other
  open_ : ∀ id call, phases id = some (.calling call) → ∀ answer, call.phase ≠ .done answer

section Staffed

variable {workers : WorkerConfig} {finished : List CrawlUri} {before after : Frontier}
  {phases : Nat → Option WorkerPhase}

theorem Staffed.keeps (staffed : Staffed before phases) (keeps : before.Keeps after) :
    Staffed after phases where
  holds id uri until_ phase := by
    rw [keeps.line, keeps.busy]
    exact staffed.holds id uri until_ phase
  alone := staffed.alone
  open_ := staffed.open_

theorem assign_cases {id other : Nat} {phase now : WorkerPhase}
    (found : assign phases id phase other = some now) :
    other = id ∧ phase = now ∨ other ≠ id ∧ phases other = some now := by
  rw [assign] at found
  by_cases same : other = id
  · rw [if_pos same] at found
    exact .inl ⟨same, Option.some.inj found⟩
  · rw [if_neg same] at found
    exact .inr ⟨same, found⟩

theorem Staffed.assign (staffed : Staffed before phases) (id : Nat) (phase : WorkerPhase)
    (free : phase.fetched? = none)
    (open_ : ∀ call, phase = .calling call → ∀ answer, call.phase ≠ .done answer) :
    Staffed before (assign phases id phase) := by
  have fetching (other : Nat) (uri : CrawlUri) (until_ : Time.Instant)
      (found : Crawl.assign phases id phase other = some (.fetching uri until_)) :
      phases other = some (.fetching uri until_) := by
    rcases assign_cases found with ⟨_, same⟩ | ⟨_, old⟩
    · subst same
      cases free
    · exact old
  refine ⟨fun other uri until_ found => staffed.holds other uri until_ (fetching _ _ _ found),
    fun one two mine theirs now later first second same =>
      staffed.alone one two mine theirs now later (fetching _ _ _ first) (fetching _ _ _ second) same,
    fun other call found => ?_⟩
  rcases assign_cases found with ⟨_, same⟩ | ⟨_, old⟩
  · exact open_ call same
  · exact staffed.open_ other call old

theorem Staffed.hands {uri : CrawlUri} (staffed : Staffed before phases)
    (hands : before.Hands after uri) (id : Nat) (until_ : Time.Instant) :
    Staffed after (Crawl.assign phases id (.fetching uri until_)) := by
  have apart (other : Nat) (theirs : CrawlUri) (later : Time.Instant)
      (old : phases other = some (.fetching theirs later)) : theirs.siteKey ≠ uri.siteKey := by
    intro same
    have busy := (staffed.holds other theirs later old).1
    rw [same, hands.idle] at busy
    cases busy
  refine ⟨fun other mine now found => ?_, fun one two mine theirs now later first second same => ?_,
    fun other call found => ?_⟩
  · rw [hands.line, hands.busy]
    rcases assign_cases found with ⟨_, same⟩ | ⟨_, old⟩
    · cases same
      exact ⟨by simp, hands.head⟩
    · obtain ⟨busy, head⟩ := staffed.holds other mine now old
      exact ⟨by rw [busy]; rfl, head⟩
  · rcases assign_cases first with ⟨one_, mine_⟩ | ⟨_, oldOne⟩
    · rcases assign_cases second with ⟨two_, _⟩ | ⟨_, oldTwo⟩
      · rw [one_, two_]
      · cases mine_
        exact absurd same.symm (apart two theirs later oldTwo)
    · rcases assign_cases second with ⟨_, theirs_⟩ | ⟨_, oldTwo⟩
      · cases theirs_
        exact absurd same (apart one mine now oldOne)
      · exact staffed.alone one two mine theirs now later oldOne oldTwo same
  · rcases assign_cases found with ⟨_, same⟩ | ⟨_, old⟩
    · cases same
    · exact staffed.open_ other call old

theorem Staffed.report {uri : CrawlUri} {until_ : Time.Instant} {id : Nat} {phase : WorkerPhase}
    (staffed : Staffed before phases) (held : phases id = some (.fetching uri until_))
    (reports : Reports workers finished uri before after) (free : phase.fetched? = none)
    (open_ : ∀ call, phase = .calling call → ∀ answer, call.phase ≠ .done answer) :
    Staffed after (Crawl.assign phases id phase) := by
  have kept := staffed.assign id phase free open_
  refine ⟨fun other mine now found => ?_, kept.alone, kept.open_⟩
  have different : mine.siteKey ≠ uri.siteKey := by
    rcases assign_cases found with ⟨_, same⟩ | ⟨apart, old⟩
    · subst same
      cases free
    · exact fun same => apart (staffed.alone other id mine uri now until_ old held same)
  rw [reports.busy _ different, reports.line _ different]
  exact kept.holds other mine now found

end Staffed

end PoliteCrawl.Crawl
