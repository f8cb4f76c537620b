import Relayd.Contract.Serde

/-!
# The contract's raw storage

`store.rs` reaches the storage in two ways: `save` and `load` use the key as it
is and Bincode2, the `Singleton` of `cosmwasm_storage` prefixes the key by its
length on two bytes and uses JSON. The two never touch the same raw key
(`singletonKey_ne`).
-/

namespace Relayd.Contract
set_option autoImplicit false
open Wire

abbrev Key := List UInt8

/-- The raw key-value storage of one contract. -/
abbrev Storage := Key → Option (List UInt8)

def Storage.empty : Storage := fun _ => none

/-- `storage.set(key, value)`. -/
def Storage.set (st : Storage) (key : Key) (value : List UInt8) : Storage :=
  Function.update st key (some value)

@[simp] theorem Storage.set_same (st : Storage) (key : Key) (value : List UInt8) :
    st.set key value key = some value := Function.update_self ..

theorem Storage.set_other {st : Storage} {key key' : Key} {value : List UInt8} (other : key' ≠ key) :
    st.set key value key' = st key' := Function.update_of_ne other ..

/-- `b"config"`. -/
def STORE_KEY_CONFIG : Key := [99, 111, 110, 102, 105, 103]

/-- `b"data"`. -/
def STORE_KEY_DATA : Key := [100, 97, 116, 97]

/-- A record type with what `save` and `load` need of it. -/
structure Stored (T : Type) where
  format : Format T
  /-- `type_name::<T>()` -/
  typeName : String

def Stored.config : Stored OracleConfig := ⟨Serde.oracleConfig, "cw_scrt_oracle_price::data::OracleConfig"⟩

def Stored.data : Stored LatestRoundData := ⟨Serde.latestRoundData, "cw_scrt_oracle_price::data::LatestRoundData"⟩

section
variable {T : Type} (record : Stored T)

/-- `save`: serialising these records does not fail. -/
def save (st : Storage) (key : Key) (value : T) : Storage :=
  st.set key (record.format.write value)

/-- `Bincode2::deserialize`: bytes after the value are ignored. -/
def deserialize (bytes : List UInt8) : StdResult T :=
  match record.format.read bytes with
  | some (value, _) => .ok value
  | none => .error (.ParseErr record.typeName)

/-- `load`. -/
def load (st : Storage) (key : Key) : StdResult T :=
  match st key with
  | some bytes => deserialize record bytes
  | none => .error (.NotFound record.typeName)

theorem load_absent {st : Storage} {key : Key} (absent : st key = none) :
    load record st key = .error (.NotFound record.typeName) := by
  simp only [load, absent]

theorem deserialize_write {value : T} (reads : record.format.Reads value) :
    deserialize record (record.format.write value) = .ok value := by
  have := reads []
  rw [List.append_nil] at this
  simp only [deserialize, this]

variable {record}

theorem load_save (st : Storage) (key : Key) (value : T) :
    load record (save record st key value) key = deserialize record (record.format.write value) := by
  simp only [load, save, Storage.set_same]

theorem load_congr {st st' : Storage} {key : Key} (same : st key = st' key) :
    load record st key = load record st' key := by
  simp only [load, same]

theorem deserialize_ok {bytes : List UInt8} {value : T} (h : deserialize record bytes = .ok value) :
    ∃ rest, record.format.read bytes = some (value, rest) := by
  unfold deserialize at h
  split at h
  · rename_i rest read
    cases h
    exact ⟨rest, read⟩
  · cases h

end

/-! ## The singleton -/

/-- What the contract calls and does not contain: the address API of the chain
and the JSON serialiser behind `Singleton`. -/
structure Host where
  canonicalAddress : HumanAddr → StdResult CanonicalAddr
  toJson : OracleConfig → List UInt8
  fromJson : List UInt8 → StdResult OracleConfig

/-- The raw key of a singleton: the length on two big-endian bytes, then the key. -/
def singletonKey (key : Key) : Key :=
  UInt8.ofNat (key.length / 256) :: UInt8.ofNat key.length :: key

/-- No singleton lives at the raw key of the configuration or of the data. -/
theorem singletonKey_ne (key : Key) : singletonKey key ≠ STORE_KEY_CONFIG ∧ singletonKey key ≠ STORE_KEY_DATA := by
  constructor
  all_goals
    intro same
    have length := congrArg List.length same
    simp only [singletonKey, STORE_KEY_CONFIG, STORE_KEY_DATA, List.length_cons, List.length_nil] at length
    have small : key.length < 256 := by omega
    simp only [singletonKey, STORE_KEY_CONFIG, STORE_KEY_DATA, List.cons.injEq, Nat.div_eq_of_lt small] at same
    exact absurd same.1 (by decide)

/-- `Singleton::update`, here of the oracle configuration. -/
def Singleton.update (host : Host) (st : Storage) (key : Key) (action : OracleConfig → StdResult OracleConfig) :
    StdResult OracleConfig × Storage :=
  match st (singletonKey key) with
  | none => (.error (.NotFound Stored.config.typeName), st)
  | some bytes =>
    match host.fromJson bytes with
    | .error e => (.error e, st)
    | .ok state =>
      match action state with
      | .error e => (.error e, st)
      | .ok state => (.ok state, st.set (singletonKey key) (host.toJson state))

theorem Singleton.update_absent {host : Host} {st : Storage} {key : Key}
    {action : OracleConfig → StdResult OracleConfig} (absent : st (singletonKey key) = none) :
    Singleton.update host st key action = (.error (.NotFound Stored.config.typeName), st) := by
  simp only [Singleton.update, absent]

end Relayd.Contract
