import Relayd.Common.Startup
import Relayd.Contract.Calls
import Relayd.Contract.Response
import Relayd.EthClient.Allowance
import Relayd.EthClient.Decoding
import Relayd.EthClient.FailedStart
import Relayd.EthClient.Frame
import Relayd.EthClient.Retry
import Relayd.EthClient.GivingUp
import Relayd.EthClient.HealthyRun
import Relayd.EthClient.OvertakenReads
import Relayd.EthClient.PolledPrice
import Relayd.EthClient.PollingLog
import Relayd.EthClient.Registries
import Relayd.EthClient.ReplacedAggregator
import Relayd.EthClient.Responses
import Relayd.EthClient.ReviewInMemory
import Relayd.EthClient.Schema
import Relayd.EthClient.Subscription
import Relayd.EthClient.ValidData
import Relayd.FailedMerge
import Relayd.FeedHandler.Agreement
import Relayd.Resubmission
import Relayd.ScrtClient.ClientTypes
