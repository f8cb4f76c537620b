import Relayd.EthClient.Healthy
import Relayd.EthClient.Registrations

/-!
# Registrations on one source

One feed, created once. When nothing is in flight the table's entry for the
source has the registrations of the merged changes, as long as no recast and no
merge went by older ones. One that did is enough to lose a registration, or to
bring a removed one back.
-/

namespace Relayd.EthClient
set_option autoImplicit false
open Relayd.Common Sys

section
variable {ι : Type}

/-- The topics after the creation of a feed. -/
def created (feedId : String) (source : FeedConfigSource) : Net ι where
  sourceConfig := Topic.append (fun _ => []) feedId source

/-- The feed is not submitted again. -/
def Undeclared : Action ι → Prop
  | .submit _ _ => False
  | _ => True

/-- The table's entry for the source has the registrations that the reviews of the merged changes make,
one after the other. -/
def Replayed (config : RelaydConfig) (net : Net ι) (feedId : String) (source : FeedConfigSource) : Prop :=
  ∃ handle entry, replay config source.handle (net.accepted source.contract) = .ok handle ∧
    net.sourceTable source.contract = some entry ∧ entry.feedId = feedId ∧ entries entry.source.handle = entries handle

instance (config : RelaydConfig) (net : Net ι) (feedId : String) (source : FeedConfigSource) :
    Decidable (Replayed config net feedId source) :=
  match replayed : replay config source.handle (net.accepted source.contract), stored : net.sourceTable source.contract with
  | .ok handle, some entry =>
    decidable_of_iff (entry.feedId = feedId ∧ entries entry.source.handle = entries handle) (by simp [Replayed, replayed, stored])
  | .ok _, none => isFalse (by simp [Replayed, stored])
  | .error _, _ => isFalse (by simp [Replayed, replayed])

theorem created_synced (config : RelaydConfig) (feedId : String) (source : FeedConfigSource) :
    Synced config (created feedId source : Net ι) :=
  (Synced.init config).submit rfl rfl

instance : DecidablePred (Undeclared : Action ι → Prop)
  | .submit _ _ => isFalse id
  | .consume .. | .stopPolling .. | .stopListening .. | .announce .. | .merge .. | .table .. => isTrue True.intro

/-- The feed is the only one. -/
def Alone (feedId : String) (net : Net ι) : Prop := net.Everywhere fun f _ => f = feedId

theorem created_alone (feedId : String) (source : FeedConfigSource) : Alone feedId (created feedId source : Net ι) :=
  (Net.Everywhere.init.append (fun _ _ held => held) rfl : Net.Everywhere (fun f _ => f = feedId) (created feedId source))

theorem Alone.oneFeed {feedId : String} {net : Net ι} (alone : Alone feedId net) (sourceId : String) :
    net.OneFeed sourceId := by
  rintro f f' ⟨record, member, -⟩ ⟨record', member', -⟩
  rw [alone.records f record member, alone.records f' record' member']

theorem Alone.unshared {feedId : String} {config : RelaydConfig} {clients : ι → Client} {net : Net ι} {a : Action ι}
    (alone : Alone feedId net) (undeclared : Undeclared a) : Unshared config clients net a := by
  cases a with
  | submit feedId source => exact undeclared.elim
  | merge i sourceId now =>
    intro info next accepted
    exact alone.oneFeed sourceId
  | _ => exact True.intro

variable [DecidableEq ι]

theorem Alone.step {feedId : String} {config : RelaydConfig} {clients : ι → Client} {aliased : Bool} {net net' : Net ι}
    {a : Action ι} (alone : Alone feedId net) (undeclared : Undeclared a)
    (stepped : net.step config clients aliased a = some net') : Alone feedId net' := by
  apply Net.Everywhere.step alone (fun _ _ held => held) stepped
  · rintro f source rfl
    exact undeclared.elim
  · rintro i env f record - - - same f' upd cast
    obtain ⟨rfl, -⟩ := (handleSourceConfig_own config (clients i) env f record _).2 _ (mem_recasts.1 cast)
    exact same
  · rintro i sourceId info now entry upd - - - - same
    exact same

/-- The first record of a feed stays first. -/
theorem Net.step_head {config : RelaydConfig} {clients : ι → Client} {aliased : Bool} {net net' : Net ι} {a : Action ι}
    (stepped : net.step config clients aliased a = some net') {feedId : String} {first : FeedConfigSource}
    (isFirst : (net.sourceConfig feedId).head? = some first) : (net'.sourceConfig feedId).head? = some first := by
  obtain ⟨more, grown⟩ := Net.step_grows stepped feedId
  rw [grown, List.head?_append, isFirst, Option.some_or]

/-- **No registration is lost, as long as what is written over was read.** -/
theorem registrations_kept (config : RelaydConfig) (clients : ι → Client) (aliased : Bool) (feedId : String)
    (source : FeedConfigSource) (as : List (Action ι)) (net : Net ι) (undeclared : ∀ a ∈ as, Undeclared a)
    (upToDate : Along (Net.step config clients aliased) (UpToDate config clients) (created feedId source) as)
    (reached : run (Net.step config clients aliased) (created feedId source) as = some net)
    (settled : net.Settled feedId source.contract) : Replayed config net feedId source := by
  have each : ∀ net a net', (Synced config net ∧ Alone feedId net ∧ (net.sourceConfig feedId).head? = some source) →
      (Undeclared a ∧ UpToDate config clients net a) → Net.step config clients aliased net a = some net' →
      Synced config net' ∧ Alone feedId net' ∧ (net'.sourceConfig feedId).head? = some source := by
    rintro net a net' ⟨synced, alone, isFirst⟩ ⟨undeclared, upToDate⟩ stepped
    exact ⟨synced.step (alone.unshared undeclared) upToDate stepped, alone.step undeclared stepped,
      Net.step_head stepped isFirst⟩
  have isFirst : ((created feedId source : Net ι).sourceConfig feedId).head? = some source := by
    simp only [created, Topic.append_same, List.nil_append, List.head?_cons]
  obtain ⟨synced, alone, isFirst⟩ := invariant each
    ⟨created_synced config feedId source, created_alone feedId source, isFirst⟩
    ((Along.of_forall undeclared).and upToDate) reached
  obtain ⟨handle, replayed, registered⟩ := synced.replayed feedId source isFirst
  have first : source ∈ net.sourceConfig feedId := List.mem_of_mem_head? isFirst
  obtain ⟨last, isLast⟩ := Topic.last_isSome first
  -- the feed's records are all of one contract, so the table has the last one under it
  have contract : last.contract = source.contract := synced.contract feedId last (Topic.last_mem isLast) source first
  refine ⟨handle, ⟨feedId, last⟩, replayed, ?_, rfl, ?_⟩
  · rw [← contract]
    exact synced.current feedId last isLast settled.2.1 (alone.oneFeed _)
  · rw [registered, registered_last isLast]

end

/-! ## Instances that register one after the other -/

/-- Instances by name, on the main network unless they are on `goerli`. -/
def fleet (name : String) : Client where
  serviceId := "relayd.eth_" ++ name
  network := if name = "goerli" then "goerli" else "homestead"

/-- The instance starts to listen on the newest record; its registration is merged and tabled. -/
def enrol (name : String) : List (Action String) :=
  [.consume name healthyEnv "feed-btc", .merge name proxyAddress "2022-04-15T12:00:01.000Z", .table "feed-btc"]

/-- The source is validated, and polled by as many instances as the settings ask for. -/
def enrolling : List (Action String) :=
  [.consume "x" healthyEnv "feed-btc", .table "feed-btc", .table "feed-btc"] ++ enrol "x" ++ enrol "y" ++ enrol "z"

/-- The instance `x` shuts down and its removal is merged. An instance of another network recasts the
record before, and the table takes that recast before the registration of `w` is merged. -/
def leaving : List (Action String) :=
  enrolling ++
    [.stopListening "x" healthyEnv proxyAddress (some "Service 'relayd.eth_x' shutting down"),
      .merge "x" proxyAddress "2022-04-15T12:00:02.000Z", .consume "goerli" healthyEnv "feed-btc",
      .consume "w" healthyEnv "feed-btc", .consume "v" healthyEnv "feed-btc", .table "feed-btc", .table "feed-btc",
      .merge "w" proxyAddress "2022-04-15T12:00:03.000Z", .table "feed-btc", .consume "v" healthyEnv "feed-btc"]

/-- Three instances register, a fourth has nothing to do. -/
theorem enrolling_kept :
    ∃ net, run (Net.step RelaydConfig.prod fleet false) (created "feed-btc" newSource)
        (enrolling ++ [.consume "v" healthyEnv "feed-btc"]) = some net ∧
      Replayed RelaydConfig.prod net "feed-btc" newSource := by
  have settled : (run (Net.step RelaydConfig.prod fleet false) (created "feed-btc" newSource)
      (enrolling ++ [.consume "v" healthyEnv "feed-btc"])).any
        (fun net => decide (net.Settled "feed-btc" proxyAddress)) = true := by
    decide +kernel
  obtain ⟨net, reached, settled⟩ := (Option.any_eq_true _ _).1 settled
  have upToDate : Along (Net.step RelaydConfig.prod fleet false) (UpToDate RelaydConfig.prod fleet)
      (created "feed-btc" newSource) (enrolling ++ [.consume "v" healthyEnv "feed-btc"]) := by
    decide +kernel
  exact ⟨net, reached, registrations_kept RelaydConfig.prod fleet false "feed-btc" newSource _ net (by decide +kernel)
    upToDate reached (of_decide_eq_true settled)⟩

/-- The removal of `x` is undone by a recast of an older record, whether or not the table's objects are
changed in place. -/
theorem removal_undone :
    (∀ a ∈ leaving, Undeclared a) ∧ ∀ aliased : Bool,
      ∃ net, run (Net.step RelaydConfig.prod fleet aliased) (created "feed-btc" newSource) leaving = some net ∧
        net.Settled "feed-btc" proxyAddress ∧ ¬ Replayed RelaydConfig.prod net "feed-btc" newSource := by
  refine ⟨by decide +kernel, ?_⟩
  intro aliased
  have undone : (run (Net.step RelaydConfig.prod fleet aliased) (created "feed-btc" newSource) leaving).any
      (fun net => decide (net.Settled "feed-btc" proxyAddress ∧ ¬ Replayed RelaydConfig.prod net "feed-btc" newSource)) =
        true := by
    cases aliased <;> decide +kernel
  obtain ⟨net, reached, undone⟩ := (Option.any_eq_true _ _).1 undone
  exact ⟨net, reached, of_decide_eq_true undone⟩

end Relayd.EthClient
