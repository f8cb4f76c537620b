import Relayd.Common.Source

/-!
# Data feeds

`feed.data.ts`: the configuration of a feed, as submitted by a client and as
cast on `FEED_CONFIG`, with the constraints declared on its classes.
-/

namespace Relayd.Common
set_option autoImplicit false

/-- An ISO date as `toISOString` writes it, by the milliseconds that `Date.parse` reads in it. -/
abbrev IsoDate := Int

inductive EFeedDataType
  | PRICE
  deriving DecidableEq

structure FeedConfigData where
  type : EFeedDataType
  quote : Option String := none
  base : Option String := none
  deriving DecidableEq

inductive EFeedTargetNetwork
  | SCRT_MAIN
  | SCRT_TEST
  deriving DecidableEq

inductive EFeedTargetType
  | CL_RELAY
  | CL_PRICE_AGGR_RELAY
  | CUSTOM
  deriving DecidableEq

/-- Target contract of a relayed data feed, with the defaults of its class. -/
structure FeedConfigTarget where
  status : Option ESourceStatus := some .INI
  contract : Option String := none
  owner : Option String := none
  network : Option EFeedTargetNetwork := some .SCRT_TEST
  type : Option EFeedTargetType := some .CL_PRICE_AGGR_RELAY
  typeCustom : Option String := none
  deriving DecidableEq

/-- Data feed configuration. -/
structure FeedConfig where
  id : String
  version : Option Rat := some 1
  name : String
  description : Option String := none
  creator : String
  dateCreated : Option IsoDate := none
  dateUpdated : Option IsoDate := none
  data : FeedConfigData
  source : FeedConfigSource
  target : Option FeedConfigTarget := none
  deriving DecidableEq

/-- A record of `SOURCE_DATA`. -/
structure FeedSourceDataUpdate where
  feedId : String
  sourceId : Option String := none
  source : Option FeedSourceData := none
  reason : Option ESourceDataUpdateReason := none
  info : Option String := none
  deriving DecidableEq

def FeedSourceDataUpdate.valid (isDateString : String → Bool) (u : FeedSourceDataUpdate) : Bool :=
  u.feedId.length ≤ 40 && optional (fun s => s.length ≤ 40) u.sourceId &&
    optional (FeedSourceData.valid isDateString) u.source && optional (fun s => s.length ≤ 255) u.info

def FeedConfigData.valid (d : FeedConfigData) : Bool :=
  optional (hasLength 3 6) d.quote && optional (hasLength 3 6) d.base

def FeedConfigTarget.valid (t : FeedConfigTarget) : Bool :=
  optional (fun s => hasLength 46 46 s && containsText "secret" s) t.contract &&
    (t.status ≠ some .OK || optional (fun s => hasLength 44 46 s && containsText "secret" s) t.owner) &&
    (t.type ≠ some .CUSTOM || t.typeCustom.any (hasLength 8 40))

/-- The constraints on a submission. A JSON body holds no `Date`, so
`@IsDate()` admits `dateCreated` and `dateUpdated` only when they are absent. -/
def FeedConfig.valid (isDateString : String → Bool) (f : FeedConfig) : Bool :=
  hasLength 4 40 f.id && hasLength 8 80 f.name && optional (fun s => s.length ≤ 256) f.description &&
    hasLength 44 46 f.creator && containsText "secret" f.creator &&
    f.dateCreated.isNone && f.dateUpdated.isNone && f.data.valid && f.source.valid isDateString &&
    optional FeedConfigTarget.valid f.target

theorem FeedConfig.valid_undated {isDateString : String → Bool} {f : FeedConfig} (valid : f.valid isDateString = true) :
    f.dateCreated = none := by
  simp only [FeedConfig.valid, Bool.and_eq_true, Option.isNone_iff_eq_none] at valid
  exact valid.1.1.1.1.2

/-- The sample of the tests with the least one can submit, the rest as the classes fill it in. -/
def feedConfigPriceBtcUsd : FeedConfig where
  id := "cl-eth-price-btcusd-1-aggr-prox"
  name := "CL-ETH BTC/USD Price feed Aggregator Proxy"
  creator := "secret1p4ltddczms6hm3e7z3r8cufuwjqq3nq40npaje"
  data := { type := .PRICE }
  source := { contract := proxyAddress }

theorem feedConfigPriceBtcUsd_valid (isDateString : String → Bool) :
    feedConfigPriceBtcUsd.valid isDateString = true := by
  have source := FeedConfigSource.default_valid isDateString proxyAddress (by decide) (by decide)
  have rest : (hasLength 4 40 feedConfigPriceBtcUsd.id && hasLength 8 80 feedConfigPriceBtcUsd.name &&
      hasLength 44 46 feedConfigPriceBtcUsd.creator && containsText "secret" feedConfigPriceBtcUsd.creator) = true := by
    decide +kernel
  simpa [FeedConfig.valid, feedConfigPriceBtcUsd, optional, FeedConfigData.valid, source] using rest

end Relayd.Common
