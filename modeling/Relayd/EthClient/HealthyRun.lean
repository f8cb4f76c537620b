import Relayd.EthClient.Healthy

/-!
# Runs of one instance on healthy sources

One instance, sources submitted on its network, nothing going wrong outside. No
source gets status `FAIL` as long as no consumption gives one up; and the
instance gives up a source it polls, once the registration of its own poller has
come back to it often enough.
-/

namespace Relayd.EthClient
set_option autoImplicit false
open Relayd.Common Sys

/-- Nothing is wrong with the action: a submitted source is new and on the instance's network, and what
a consumption meets is healthy. -/
def Undisturbed (client : Client) : Action Unit → Prop
  | .submit _ source => source.status = some .INI ∧ checkNetworkMatch client source.network = true
  | .consume _ env _ => env.Healthy
  | _ => True

/-- The action is the consumption of a record that gives the source up. -/
def GivesUpAt (config : RelaydConfig) (client : Client) (net : Net Unit) : Action Unit → Prop
  | .consume _ _ feedId => ∃ record, net.sourceConfig.next net.handled feedId = some record ∧ GivesUp config client record
  | _ => False

instance (config : RelaydConfig) (client : Client) (net : Net Unit) : DecidablePred (GivesUpAt config client net)
  | .consume _ _ feedId => decidable_of_iff (∃ record ∈ net.sourceConfig.next net.handled feedId, GivesUp config client record)
      Iff.rfl
  | .submit .. | .stopPolling .. | .stopListening .. | .announce .. | .merge .. | .table .. => isFalse id

section
variable {config : RelaydConfig} {client : Client} {aliased : Bool} {net net' : Net Unit} {a : Action Unit}

/-- The sources of the net are on the instance's network. -/
abbrev OnNetwork (client : Client) (net : Net Unit) : Prop :=
  net.Everywhere fun _ source => checkNetworkMatch client source.network = true

/-- No source of the net is given up. -/
abbrev Alive (net : Net Unit) : Prop := net.Everywhere fun _ source => source.status ≠ some .FAIL

theorem onNetwork_step (onNetwork : OnNetwork client net) (undisturbed : Undisturbed client a)
    (stepped : net.step config (fun _ => client) aliased a = some net') : OnNetwork client net' := by
  apply Net.Everywhere.step onNetwork (fun _ _ held => held) stepped
  · rintro feedId source rfl
    exact undisturbed.2
  · rintro i env feedId record - - - held f upd cast
    obtain ⟨-, recast⟩ := (handleSourceConfig_own config client env feedId record _).2 _ (mem_recasts.1 cast)
    rw [recast.network]
    exact held
  · rintro i sourceId info now entry upd - - - result held
    rw [result.network]
    exact held

theorem alive_step (alive : Alive net) (onNetwork : OnNetwork client net) (undisturbed : Undisturbed client a)
    (kept : ¬ GivesUpAt config client net a) (stepped : net.step config (fun _ => client) aliased a = some net') :
    Alive net' := by
  apply Net.Everywhere.step alive (fun _ _ held => held) stepped
  · rintro feedId source rfl failed
    rw [undisturbed.1] at failed
    cases failed
  · rintro i env feedId record rfl member next active f upd cast failed
    have network := onNetwork.records feedId record member
    exact kept ⟨record, next, (writes_fail_iff undisturbed network active _).1 ⟨f, upd, cast, failed⟩⟩
  · rintro i sourceId info now entry upd - - - result held
    rw [result.status]
    exact held

/-- A consumption that gives the source up leaves a record in status `FAIL`. -/
theorem givesUpAt_fails (onNetwork : OnNetwork client net) (undisturbed : Undisturbed client a)
    (givesUp : GivesUpAt config client net a) (stepped : net.step config (fun _ => client) aliased a = some net') :
    ∃ feedId, ∃ record ∈ net'.sourceConfig feedId, record.status = some .FAIL := by
  cases a with
  | consume i env feedId =>
    obtain ⟨record, next, givesUp⟩ := givesUp
    have active : record.status ≠ some .FAIL := by
      intro failed
      have throws := givesUp.1
      simp only [refused, failed] at throws
      cases throws
    obtain rfl := Net.consume_eq next stepped
    have network := onNetwork.records feedId record (Topic.next_mem next)
    obtain ⟨f, upd, cast, failed⟩ := (writes_fail_iff undisturbed network active (net.services i)).2 givesUp
    exact ⟨f, upd, Topic.mem_appendAll.2 (Or.inr cast), failed⟩
  | _ => exact givesUp.elim

end

/-- **A healthy source never gets status `FAIL`, exactly as long as no consumption gives it up**: as
long as no record is consumed that the instance polls already (or that cannot be handled at all) and
whose notes of failed handlings are, with this one, as many as the setting allows. -/
theorem healthy_never_fails_iff (config : RelaydConfig) (client : Client) (aliased : Bool) (as : List (Action Unit))
    (net : Net Unit) (undisturbed : ∀ a ∈ as, Undisturbed client a)
    (reached : run (Net.step config (fun _ => client) aliased) {} as = some net) :
    (∀ feedId, ∀ record ∈ net.sourceConfig feedId, record.status ≠ some .FAIL) ↔
      Along (Net.step config (fun _ => client) aliased) (fun net a => ¬ GivesUpAt config client net a) {} as := by
  have healthy : Along (Net.step config (fun _ => client) aliased) (fun _ a => Undisturbed client a) {} as :=
    Along.of_forall undisturbed
  constructor
  · intro alive pre a post before split reachedBefore givesUp
    subst split
    have onNetwork : OnNetwork client before :=
      invariant (fun _ _ _ => onNetwork_step) Net.Everywhere.init healthy.left reachedBefore
    rw [run_append, reachedBefore, Option.bind_some] at reached
    obtain ⟨after, stepped, rest⟩ := run_cons.1 reached
    obtain ⟨feedId, record, member, failed⟩ := givesUpAt_fails onNetwork
      (undisturbed a (List.mem_append_right pre List.mem_cons_self)) givesUp stepped
    -- records stay in their topic, so this one is still there at the end
    have kept : record ∈ net.sourceConfig feedId :=
      invariant (fun _ _ _ member _ stepped => Net.step_keeps stepped member) member Along.trivial rest
    exact alive feedId record kept failed
  · intro kept
    have each : ∀ net a net', (OnNetwork client net ∧ Alive net) →
        (Undisturbed client a ∧ ¬ GivesUpAt config client net a) →
        Net.step config (fun _ => client) aliased net a = some net' → OnNetwork client net' ∧ Alive net' := by
      rintro net a net' ⟨onNetwork, alive⟩ ⟨undisturbed, kept⟩ stepped
      exact ⟨onNetwork_step onNetwork undisturbed stepped, alive_step alive onNetwork undisturbed kept stepped⟩
    exact (invariant each ⟨Net.Everywhere.init, Net.Everywhere.init⟩ (healthy.and kept) reached).2.records

/-! ## The source of the default submission -/

/-- The submission is validated and polled, the registration merged and the table brought up to date. -/
def registering : List (Action Unit) :=
  [.submit "feed-btc" newSource, .consume () healthyEnv "feed-btc", .table "feed-btc", .table "feed-btc",
    .consume () healthyEnv "feed-btc", .merge () proxyAddress "2022-04-15T12:00:01.000Z", .table "feed-btc"]

/-- The instance consumes the record with its own registration, and the recast of that record. -/
def comingBack : List (Action Unit) :=
  registering ++ [.consume () healthyEnv "feed-btc", .consume () healthyEnv "feed-btc"]

theorem comingBack_undisturbed : ∀ a ∈ comingBack, Undisturbed mainClient a := by
  intro a member
  simp only [comingBack, registering, List.cons_append, List.nil_append, List.mem_cons, List.not_mem_nil, or_false] at member
  rcases member with rfl | rfl | rfl | rfl | rfl | rfl | rfl | rfl | rfl
  · exact ⟨rfl, by decide⟩
  all_goals first | exact True.intro | exact healthyEnv_healthy

/-- The instance gives up the source it polls. -/
theorem comingBack_fails :
    (∀ a ∈ comingBack, Undisturbed mainClient a) ∧
      ∃ net, run (Net.step RelaydConfig.prod (fun _ => mainClient) false) {} comingBack = some net ∧
        ∃ record ∈ net.sourceConfig "feed-btc", record.status = some .FAIL := by
  refine ⟨comingBack_undisturbed, ?_⟩
  have failed : (run (Net.step RelaydConfig.prod (fun _ => mainClient) false) {} comingBack).any
      (fun net => decide (∃ record ∈ net.sourceConfig "feed-btc", record.status = some .FAIL)) = true := by
    decide +kernel
  obtain ⟨net, reached, fail⟩ := (Option.any_eq_true _ _).1 failed
  exact ⟨net, reached, of_decide_eq_true fail⟩

/-- Until its registration comes back, nothing is given up, and no source fails. -/
theorem registering_alive :
    ∃ net, run (Net.step RelaydConfig.prod (fun _ => mainClient) false) {} registering = some net ∧
      (net.sourceConfig.last "feed-btc").map (fun source => entries source.handle) = some [(mainClient.serviceId, .EVENT)] ∧
      Along (Net.step RelaydConfig.prod (fun _ => mainClient) false)
        (fun net a => ¬ GivesUpAt RelaydConfig.prod mainClient net a) {} registering ∧
      ∀ feedId, ∀ record ∈ net.sourceConfig feedId, record.status ≠ some .FAIL := by
  have registered : (run (Net.step RelaydConfig.prod (fun _ => mainClient) false) {} registering).any (fun net =>
      decide ((net.sourceConfig.last "feed-btc").map (fun source => entries source.handle) =
        some [(mainClient.serviceId, .EVENT)])) = true := by
    decide +kernel
  obtain ⟨net, reached, registered⟩ := (Option.any_eq_true _ _).1 registered
  have undisturbed : ∀ a ∈ registering, Undisturbed mainClient a := fun a member =>
    comingBack_undisturbed a (List.mem_append_left _ member)
  have kept : Along (Net.step RelaydConfig.prod (fun _ => mainClient) false)
      (fun net a => ¬ GivesUpAt RelaydConfig.prod mainClient net a) {} registering := by
    decide +kernel
  have alive := healthy_never_fails_iff RelaydConfig.prod mainClient false registering net undisturbed reached
  exact ⟨net, reached, of_decide_eq_true registered, kept, alive.2 kept⟩

end Relayd.EthClient
