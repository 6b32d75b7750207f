import IotexCore.Basic
import IotexCore.Db.Batch
import IotexCore.Db.KVStoreWithBuffer
import IotexCore.Db.Filter
import IotexCore.Db.ConcurrentFlush
import IotexCore.Blockchain.Types
import IotexCore.Blockchain.Config
import IotexCore.Blockchain.Chain
import IotexCore.Blockchain.Context
import IotexCore.Blockchain.Notify
import IotexCore.Blockchain.Linkage
import IotexCore.Blockchain.Tip
import IotexCore.Blockchain.Productivity
import IotexCore.Blockchain.Minting
import IotexCore.ContractStaking.Indexer
import IotexCore.ContractStaking.Consistency
import IotexCore.ContractStaking.Noninterference
import IotexCore.ContractStaking.Lifecycle
