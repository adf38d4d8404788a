import PoliteCrawl.Proofs.Crawl.Offers
import PoliteCrawl.Proofs.Frontier.Call
import PoliteCrawl.Proofs.Frontier.Completion
import PoliteCrawl.Proofs.Frontier.Supervision

set_option autoImplicit false

namespace PoliteCrawl

def Stats.score (stats : Stats) : Stats :=
  { stats with queued := 0, reclassified := 0, queuesReadied := 0 }

namespace Frontier

open Crawl

-- The URIs in the queue of a site and those that still wait in the filter.
def line (frontier : Frontier) (key : String) : List CrawlUri :=
  (frontier.lane key).items ++ atSite key (frontier.gateway.pending.map addressed)

def total (frontier : Frontier) : Nat :=
  frontier.stats.queued + frontier.gateway.pending.length

-- A frontier in which every URI stands in the line of its own site, and no host is reassigned.
structure Sound (frontier : Frontier) : Prop where
  calm : frontier.Calm
  registered : frontier.Registered
  counted : frontier.ledger.Counted
  homes : frontier.routing.reassigned = []
  open_ : frontier.target ≠ .finish → frontier.gateway.isOpen = true
  housed : ∀ key, ∀ uri ∈ frontier.line key, Housed key uri

structure Keeps (before after : Frontier) : Prop where
  sound : after.Sound
  line : after.line = before.line
  busy : ∀ key, (after.lane key).busy = (before.lane key).busy
  total : after.total = before.total
  score : after.stats.score = before.stats.score
  record : after.gateway.record = before.gateway.record

structure Rests (before after : Frontier) : Prop extends Keeps before after where
  finish : after.target = .finish ↔ before.target = .finish

theorem Sound.rests {frontier : Frontier} (sound : frontier.Sound) : frontier.Rests frontier :=
  ⟨⟨sound, rfl, fun _ => rfl, rfl, rfl, rfl⟩, Iff.rfl⟩

theorem Rests.trans {first second third : Frontier} (one : first.Rests second)
    (two : second.Rests third) : first.Rests third :=
  ⟨⟨two.sound, two.line.trans one.line, fun key => (two.busy key).trans (one.busy key),
    two.total.trans one.total, two.score.trans one.score, two.record.trans one.record⟩,
    two.finish.trans one.finish⟩

theorem Sound.next {before after : Frontier} {entries : List Entry} (sound : before.Sound)
    (proceeds : before.Proceeds entries after)
    (open_ : after.target ≠ .finish → after.gateway.isOpen = true)
    (housed : ∀ key, ∀ uri ∈ after.line key, Housed key uri) : after.Sound where
  calm := proceeds.calm sound.calm
  registered := proceeds.registered
  counted := proceeds.posted.counted sound.counted
  homes := by
    rw [proceeds.routing]
    exact sound.homes
  open_ := open_
  housed := housed

theorem Proceeds.one {before after : Frontier} {key : String} {deed : Deed}
    (proceeds : before.Proceeds [⟨key, deed⟩] after) :
    (before.lane key).take deed = some (after.lane key) ∧
      ∀ other, other ≠ key → after.lane other = before.lane other := by
  constructor
  · have here := proceeds.posted.lanes key
    rw [deeds_here key _ (by simp)] at here
    obtain ⟨next, taken, last⟩ := Option.bind_eq_some_iff.mp here
    cases last
    exact taken
  · intro other different
    have there := proceeds.posted.lanes other
    rw [deeds_elsewhere other _ (by simpa using Ne.symm different)] at there
    exact (Option.some.inj there).symm

theorem home_site {frontier : Frontier} (sound : frontier.Sound) (url : Url) :
    frontier.routing.siteKey url = url.siteKey?.getD url.scheme := by
  rw [Routing.siteKey, sound.homes]
  rfl

theorem accepted_deeds {frontier : Frontier} (sound : frontier.Sound) (key : String)
    (batch : List CrawlUri) :
    deedsOn key (batch.map frontier.acceptEntry) =
      (atSite key (batch.map addressed)).map Deed.accepted := by
  have entry (uri : CrawlUri) :
      frontier.acceptEntry uri = ⟨(addressed uri).siteKey, .accepted (addressed uri)⟩ := by
    rw [acceptEntry, home_site sound]
    rfl
  induction batch with
  | nil => rfl
  | cons uri rest ih =>
      simp only [deedsOn, atSite, List.map_cons, List.filter_cons, entry] at ih ⊢
      by_cases here : (addressed uri).siteKey = key
      · simpa [here] using ih
      · simpa [here] using ih

theorem replay_accepted (lane : Lane) (uris : List CrawlUri) :
    lane.replay? (uris.map Deed.accepted) = some { lane with items := lane.items ++ uris } := by
  induction uris generalizing lane with
  | nil => simp [Lane.replay?]
  | cons uri rest ih =>
      rw [List.map_cons, Lane.replay?, Lane.take, Option.bind_some, ih, List.append_assoc]
      rfl

theorem accepted_counts (frontier : Frontier) (batch : List CrawlUri) :
    ((batch.map frontier.acceptEntry).filterMap Entry.left?) = [] ∧
      ((batch.map frontier.acceptEntry).filterMap Entry.joined?).length = batch.length := by
  induction batch with
  | nil => exact ⟨rfl, rfl⟩
  | cons uri rest ih => exact ⟨ih.1, congrArg (· + 1) ih.2⟩

theorem Sound.draws {before after : Frontier} (sound : before.Sound) (batch : List CrawlUri)
    (proceeds : before.Proceeds (batch.map before.acceptEntry) after)
    (pending : before.gateway.pending = batch ++ after.gateway.pending)
    (score : after.stats.score = before.stats.score)
    (record : after.gateway.record = before.gateway.record)
    (open_ : after.target ≠ .finish → after.gateway.isOpen = true) : before.Keeps after := by
  have lanes (key : String) : after.lane key =
      { before.lane key with
        items := (before.lane key).items ++ atSite key (batch.map addressed) } := by
    have replayed := proceeds.posted.lanes key
    rw [accepted_deeds sound key batch, replay_accepted] at replayed
    exact (Option.some.inj replayed).symm
  have line : after.line = before.line := by
    funext key
    rw [Frontier.line, Frontier.line, lanes key, pending, List.map_append, at_site_append,
      List.append_assoc]
  have counted := proceeds.posted.queued sound.counted
  obtain ⟨none, joined⟩ := accepted_counts before batch
  rw [none, joined] at counted
  refine ⟨sound.next proceeds open_ (line ▸ sound.housed), line, fun key => ?_, ?_, score, record⟩
  · rw [lanes key]
  · have grown : after.stats.queued = before.stats.queued + batch.length := counted
    rw [total, total, pending, List.length_append, grown]
    omega

structure Framed (before after : Frontier) : Prop where
  cell : after.cell = before.cell
  gateway : after.gateway = before.gateway
  score : after.stats.score = before.stats.score

theorem Sound.still {before after : Frontier} (sound : before.Sound)
    (proceeds : before.Proceeds [] after) (framed : before.Framed after) : before.Rests after := by
  have target : after.target = before.target := congrArg StateCell.target framed.cell
  refine ⟨sound.draws [] proceeds ?_ framed.score ?_ fun unfinished => ?_, ?_⟩
  · rw [framed.gateway]
    rfl
  · rw [framed.gateway]
  · rw [framed.gateway]
    exact sound.open_ (target ▸ unfinished)
  · rw [target]

theorem Sound.tuned {before after : Frontier} (sound : before.Sound)
    (same : after = { after with
      routing := before.routing, queues := before.queues, ready := before.ready
      tiers := before.tiers, snoozed := before.snoozed, retired := before.retired
      claims := before.claims, stats := before.stats, gateway := before.gateway })
    (open_ : after.target ≠ .finish → before.target ≠ .finish) : before.Keeps after := by
  have proceeds : before.Proceeds [] after := by
    rw [same]
    exact sound.registered.still rfl
  have gateway : after.gateway = before.gateway := by
    rw [same]
  refine sound.draws [] proceeds ?_ ?_ ?_ fun unfinished => ?_
  · rw [gateway]
    rfl
  · rw [same]
  · rw [gateway]
  · rw [gateway]
    exact sound.open_ (open_ unfinished)

theorem Sound.unmoved {before after : Frontier} (sound : before.Sound)
    (same : after = { after with
      routing := before.routing, queues := before.queues, ready := before.ready
      tiers := before.tiers, snoozed := before.snoozed, retired := before.retired
      claims := before.claims, stats := before.stats, cell := before.cell
      gateway := before.gateway }) : before.Rests after := by
  have target : after.target = before.target := by
    rw [same]
    rfl
  refine ⟨sound.tuned ?_ fun unfinished => target ▸ unfinished, by rw [target]⟩
  rw [same]

end Frontier

end PoliteCrawl
