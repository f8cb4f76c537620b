import Relayd.Lib.Run
import Relayd.Contract.Entry

/-!
# Sequences of handle calls

From the storage that `init` leaves, any sequence of `handle` calls from any
senders. `handle_step` is the one case analysis: an owner's `SetLatestRoundData`
writes the data, every other call fails and leaves the storage as it was. The
status of the configuration is never updated: `set_oracle_status` looks for it
under the singleton's raw key, which nothing writes.
-/

namespace Relayd.Contract
set_option autoImplicit false
open Sys

/-- One handle call. -/
structure Call where
  sender : HumanAddr
  msg : HandleMsg

section
variable (host : Host) (owner : CanonicalAddr)

/-- The storage after a call. -/
def callStep (st : Storage) (c : Call) : Option Storage := some (handle host st c.sender c.msg).2

/-- The call comes from the sender of the initialisation. -/
def FromOwner (c : Call) : Prop := host.canonicalAddress c.sender = .ok owner

instance (c : Call) : Decidable (FromOwner host owner c) :=
  inferInstanceAs (Decidable (host.canonicalAddress c.sender = .ok owner))

/-- The round data that the call writes, when it is the owner's. -/
def ownerWrite (c : Call) : Option LatestRoundData :=
  match c.msg with
  | .SetLatestRoundData data => if FromOwner host owner c then some data else none
  | .SetOracleStatus _ => none

/-- The status that the call asks for, when it is the owner's. -/
def ownerStatus (c : Call) : Option OracleStatus :=
  match c.msg with
  | .SetLatestRoundData _ => none
  | .SetOracleStatus status => if FromOwner host owner c then some status else none

/-- The data of the owner's last `SetLatestRoundData`. -/
def lastRoundData (calls : List Call) : Option LatestRoundData :=
  (calls.filterMap (ownerWrite host owner)).getLast?

/-- The status of the owner's last `SetOracleStatus`. -/
def lastStatus (calls : List Call) : Option OracleStatus :=
  (calls.filterMap (ownerStatus host owner)).getLast?

end

variable {host : Host} {config : OracleConfig}

theorem calls_run (host : Host) (st : Storage) (calls : List Call) : ∃ st', run (callStep host) st calls = some st' :=
  run_total (fun _ _ => ⟨_, rfl⟩) st calls

/-- The answer of the data query when `data` is the last write. -/
def roundDataAnswer (data : Option LatestRoundData) : StdResult QueryAnswer :=
  match data with
  | some new => .ok (.LatestRoundData new .Success)
  | none => .error (.NotFound Stored.data.typeName)

/-- The storage of an initialised contract: the configuration loads back, the
singleton's cell is empty, and `data` is what the data cell holds. -/
structure Ready (config : OracleConfig) (data : Option LatestRoundData) (st : Storage) : Prop where
  stored : load Stored.config st STORE_KEY_CONFIG = .ok config
  singleton : st (singletonKey STORE_KEY_CONFIG) = none
  cell : st STORE_KEY_DATA = data.map Serde.latestRoundData.write

theorem Ready.saveData {data : Option LatestRoundData} {st : Storage} (ready : Ready config data st)
    (new : LatestRoundData) : Ready config (some new) (save Stored.data st STORE_KEY_DATA new) where
  stored := by
    rw [← ready.stored]
    exact load_congr (Storage.set_other (by decide))
  singleton := by
    rw [← ready.singleton]
    exact Storage.set_other (singletonKey_ne _).2
  cell := by simp only [save, Storage.set_same, Option.map_some, Stored.data]

/-- A status call fails: it updates what is stored under a key where nothing is. -/
theorem setOracleStatus_fails (host : Host) {st : Storage} (absent : st (singletonKey STORE_KEY_CONFIG) = none)
    (sender : HumanAddr) (status : OracleStatus) : ∃ e, handle host st sender (.SetOracleStatus status) = (.error e, st) := by
  cases canonical : host.canonicalAddress sender with
  | error e =>
    exact ⟨e, by simp only [handle, setOracleStatus, canonical]⟩
  | ok senderRaw =>
    refine ⟨.NotFound Stored.config.typeName, ?_⟩
    simp only [handle, setOracleStatus, canonical, Singleton.update_absent absent]

/-- **What a call does**, on the storage of an initialised contract. -/
theorem handle_step (host : Host) {data : Option LatestRoundData} {st : Storage} (ready : Ready config data st)
    (c : Call) :
    (∃ new, ownerWrite host config.owner c = some new ∧ handle host st c.sender c.msg =
        (.ok ⟨some (.SetLatestRoundData .Success)⟩, save Stored.data st STORE_KEY_DATA new)) ∨
      (ownerWrite host config.owner c = none ∧ ∃ e, handle host st c.sender c.msg = (.error e, st)) := by
  obtain ⟨sender, msg⟩ := c
  cases msg with
  | SetLatestRoundData new =>
    cases canonical : host.canonicalAddress sender with
    | error e =>
      right
      simp [ownerWrite, FromOwner, handle, setLatestRoundData, canonical]
    | ok senderRaw =>
      by_cases same : senderRaw = config.owner
      · left
        simp [ownerWrite, FromOwner, handle, setLatestRoundData, canonical, ready.stored, same]
      · right
        simp [ownerWrite, FromOwner, handle, setLatestRoundData, canonical, ready.stored, same]
  | SetOracleStatus status =>
    right
    exact ⟨rfl, setOracleStatus_fails host ready.singleton sender status⟩

/-- A call keeps the contract initialised and updates the data cell by the owner's write. -/
theorem Ready.call {data : Option LatestRoundData} {st : Storage} (ready : Ready config data st) (c : Call) :
    Ready config ((ownerWrite host config.owner c).or data) (handle host st c.sender c.msg).2 := by
  rcases handle_step host ready c with ⟨new, write, done⟩ | ⟨write, e, failed⟩
  · rw [done, write]
    exact ready.saveData new
  · rw [failed, write]
    exact ready

/-- The data cell holds the owner's last write of the calls, or what it held before. -/
theorem Ready.run {data : Option LatestRoundData} {st st' : Storage} (ready : Ready config data st)
    {calls : List Call} (reached : Sys.run (callStep host) st calls = some st') :
    Ready config ((lastRoundData host config.owner calls).or data) st' := by
  induction calls generalizing data st with
  | nil =>
    cases reached
    exact ready
  | cons c calls ih =>
    obtain ⟨st₁, first, rest⟩ := run_cons.1 reached
    cases first
    have later := ih (ready.call c) rest
    have last : (lastRoundData host config.owner (c :: calls)).or data =
        (lastRoundData host config.owner calls).or ((ownerWrite host config.owner c).or data) := by
      simp only [lastRoundData, List.filterMap_cons]
      cases ownerWrite host config.owner c with
      | none => simp
      | some new =>
        cases hl : calls.filterMap (ownerWrite host config.owner) with
        | nil => simp
        | cons d ds => simp [List.getLast?_cons]
    rw [last]
    exact later

/-- `init` leaves nothing under the key of the singleton. -/
theorem singleton_of_init {sender : HumanAddr} {msg : InitMsg} {st : Storage} {response : InitResponse}
    (success : init host Storage.empty sender msg = (.ok response, st)) : st (singletonKey STORE_KEY_CONFIG) = none := by
  obtain ⟨owner, -, rfl⟩ := init_ok success
  exact Storage.set_other (singletonKey_ne _).1

/-- `init` leaves an initialised contract, if the stored configuration reads back. -/
theorem ready_of_init {sender : HumanAddr} {msg : InitMsg} {owner : CanonicalAddr} {st : Storage}
    {response : InitResponse} (success : init host Storage.empty sender msg = (.ok response, st))
    (canonical : host.canonicalAddress sender = .ok owner)
    (undone : deserialize Stored.config (Stored.config.format.write (OracleConfig.ofMsg msg owner)) =
      .ok (OracleConfig.ofMsg msg owner)) :
    Ready (OracleConfig.ofMsg msg owner) none st := by
  have singleton := singleton_of_init success
  obtain ⟨owner', canonical', rfl⟩ := init_ok success
  rw [canonical] at canonical'
  cases canonical'
  constructor
  · rw [load_save, undone]
  · exact singleton
  · exact Storage.set_other (by decide)

theorem Ready.getLatestRoundData {data : Option LatestRoundData} {st : Storage} (ready : Ready config data st) :
    query st .GetLatestRoundData = roundDataAnswer data := by
  have cell := ready.cell
  cases data with
  | none =>
    have absent := load_absent Stored.data cell
    simp only [query, Contract.getLatestRoundData, absent, roundDataAnswer]
  | some new =>
    have read := deserialize_write Stored.data (Serde.latestRoundData_reads new)
    have loaded : load Stored.data st STORE_KEY_DATA = .ok new := by
      simp only [load, cell, Option.map_some]
      exact read
    simp only [query, Contract.getLatestRoundData, loaded, roundDataAnswer]

theorem Ready.getOracleConfig {data : Option LatestRoundData} {st : Storage} (ready : Ready config data st) :
    query st .GetOracleConfig = .ok (.OracleConfig config .Success) := by
  simp only [query, Contract.getOracleConfig, ready.stored]

/-! ## The oracle value -/

/-- The law of one call: an owner's write succeeds, everyone else's call fails,
and a failed call leaves the storage as it was. -/
structure CallLaw (host : Host) (owner : CanonicalAddr) (st : Storage) (c : Call) : Prop where
  ownerWrites : (ownerWrite host owner c).isSome → ∃ r, (handle host st c.sender c.msg).1 = .ok r
  othersFail : ¬ FromOwner host owner c → ∃ e, (handle host st c.sender c.msg).1 = .error e
  failureKeeps : (∃ e, (handle host st c.sender c.msg).1 = .error e) → (handle host st c.sender c.msg).2 = st

theorem Ready.callLaw {data : Option LatestRoundData} {st : Storage} (ready : Ready config data st) (c : Call) :
    CallLaw host config.owner st c := by
  have stranger : ¬ FromOwner host config.owner c → ownerWrite host config.owner c = none := by
    intro other
    unfold ownerWrite
    split
    · exact if_neg other
    · rfl
  rcases handle_step host ready c with ⟨new, write, done⟩ | ⟨write, e, failed⟩
  · constructor
    · exact fun _ => ⟨_, by rw [done]⟩
    · intro other
      rw [stranger other] at write
      cases write
    · rintro ⟨e, error⟩
      rw [done] at error
      cases error
  · constructor
    · intro writes
      rw [write] at writes
      cases writes
    · exact fun _ => ⟨e, by rw [failed]⟩
    · exact fun _ => by rw [failed]

/-- **The oracle value is the owner's last write.** After any calls from any
senders the data query returns it, and every call on the way obeys `CallLaw`. -/
theorem round_data_is_last_owner_write (host : Host) (sender : HumanAddr) (msg : InitMsg) (owner : CanonicalAddr)
    (st : Storage) (response : InitResponse) (calls : List Call)
    (success : init host Storage.empty sender msg = (.ok response, st))
    (canonical : host.canonicalAddress sender = .ok owner)
    (undone : deserialize Stored.config (Stored.config.format.write (OracleConfig.ofMsg msg owner)) =
      .ok (OracleConfig.ofMsg msg owner)) :
    (∃ st', run (callStep host) st calls = some st' ∧
      query st' .GetLatestRoundData = roundDataAnswer (lastRoundData host owner calls)) ∧
    Along (callStep host) (CallLaw host owner) st calls := by
  have ready := ready_of_init success canonical undone
  obtain ⟨st', reached⟩ := calls_run host st calls
  refine ⟨⟨st', reached, ?_⟩, ?_⟩
  · have after := ready.run reached
    rw [Option.or_none] at after
    exact after.getLatestRoundData
  · intro pre c post st₁ _ before
    exact (ready.run before).callLaw c

/-- A write of the owner, then one of somebody else. -/
def twoWriters : List Call :=
  [⟨"creator", .SetLatestRoundData ⟨⟨1000100000000, by decide⟩, ⟨1618091710, by decide⟩⟩⟩,
    ⟨"anyone", .SetLatestRoundData ⟨⟨1, by decide⟩, ⟨2, by decide⟩⟩⟩]

theorem round_data_of_two_writers :
    (∃ st', run (callStep sampleHost) helperStorage twoWriters = some st' ∧
      query st' .GetLatestRoundData =
        .ok (.LatestRoundData ⟨⟨1000100000000, by decide⟩, ⟨1618091710, by decide⟩⟩ .Success)) ∧
    Along (callStep sampleHost) (CallLaw sampleHost creator) helperStorage twoWriters :=
  round_data_is_last_owner_write sampleHost "creator" (helperInitMsg none) creator _ _ _ init_helper_msg rfl
    helperConfig_undone

/-! ## The oracle status -/

/-- The law of `SetOracleStatus` over a sequence of calls: the owner's calls
succeed and the configuration query shows the last requested status. -/
structure StatusLaw (host : Host) (config : OracleConfig) (st : Storage) (calls : List Call) : Prop where
  accepted : Along (callStep host)
    (fun st c => (ownerStatus host config.owner c).isSome → ∃ r, (handle host st c.sender c.msg).1 = .ok r) st calls
  shown : ∃ st', run (callStep host) st calls = some st' ∧
    query st' .GetOracleConfig = .ok (.OracleConfig
      { config with oracleStatus := (lastStatus host config.owner calls).getD config.oracleStatus } .Success)

/-- A status call of the owner fails. -/
theorem Ready.status_fails {data : Option LatestRoundData} {st : Storage} (ready : Ready config data st) {c : Call}
    (asked : (ownerStatus host config.owner c).isSome) : ∃ e, (handle host st c.sender c.msg).1 = .error e := by
  have noWrite : ownerWrite host config.owner c = none := by
    unfold ownerStatus at asked
    unfold ownerWrite
    split at asked
    · cases asked
    · rfl
  rcases handle_step host ready c with ⟨new, write, -⟩ | ⟨-, e, failed⟩
  · rw [noWrite] at write
    cases write
  · exact ⟨e, by rw [failed]⟩

theorem Ready.statusLaw_iff {data : Option LatestRoundData} {st : Storage} (ready : Ready config data st)
    (calls : List Call) :
    StatusLaw host config st calls ↔ ∀ c ∈ calls, ownerStatus host config.owner c = none := by
  obtain ⟨st', reached⟩ := calls_run host st calls
  constructor
  · intro law c member
    obtain ⟨pre, post, split⟩ := List.append_of_mem member
    obtain ⟨st₁, before⟩ := calls_run host st pre
    by_contra asked
    have asked : (ownerStatus host config.owner c).isSome := Option.isSome_iff_ne_none.2 asked
    obtain ⟨r, ok⟩ := law.accepted pre c post st₁ split before asked
    obtain ⟨e, error⟩ := (ready.run before).status_fails asked
    rw [ok] at error
    cases error
  · intro none
    have noStatus : lastStatus host config.owner calls = .none := by
      rw [lastStatus, List.filterMap_eq_nil_iff.2 none]
      rfl
    constructor
    · intro pre c post st₁ split _ asked
      rw [none c (by rw [split]; simp)] at asked
      cases asked
    · refine ⟨st', reached, ?_⟩
      rw [noStatus]
      exact (ready.run reached).getOracleConfig

/-- **`SetOracleStatus` never takes effect**: the law holds exactly of the
sequences in which the owner does not call it. -/
theorem statusLaw_iff_no_owner_status (host : Host) (sender : HumanAddr) (msg : InitMsg) (owner : CanonicalAddr)
    (st : Storage) (response : InitResponse) (calls : List Call)
    (success : init host Storage.empty sender msg = (.ok response, st))
    (canonical : host.canonicalAddress sender = .ok owner)
    (undone : deserialize Stored.config (Stored.config.format.write (OracleConfig.ofMsg msg owner)) =
      .ok (OracleConfig.ofMsg msg owner)) :
    StatusLaw host (OracleConfig.ofMsg msg owner) st calls ↔ ∀ c ∈ calls, ownerStatus host owner c = none :=
  (ready_of_init success canonical undone).statusLaw_iff calls

/-- Both write, and then the one who is not the owner asks for `Stopped`. -/
def twoWritersAndStranger : List Call := twoWriters ++ [⟨"anyone", .SetOracleStatus .Stopped⟩]

/-- The law holds of them: the owner asks for no status, and the stranger is refused. -/
theorem statusLaw_of_stranger : StatusLaw sampleHost helperConfig helperStorage twoWritersAndStranger :=
  (statusLaw_iff_no_owner_status sampleHost "creator" (helperInitMsg none) creator _ _ _ init_helper_msg rfl
    helperConfig_undone).2 (by decide)

/-- The owner asks for `Running` right after the initialisation. -/
theorem owner_status_call_fails :
    init sampleHost Storage.empty "creator" (helperInitMsg none) = (.ok ⟨[("config", helperConfig)]⟩, helperStorage) ∧
    ¬ StatusLaw sampleHost helperConfig helperStorage [⟨"creator", .SetOracleStatus .Running⟩] := by
  refine ⟨init_helper_msg, ?_⟩
  have ready : Ready helperConfig none helperStorage :=
    ready_of_init init_helper_msg rfl helperConfig_undone
  rw [ready.statusLaw_iff]
  decide

end Relayd.Contract
