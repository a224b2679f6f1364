import Skplat.Machine.Basic
import Skplat.MsgQueue.Registration
import Skplat.MsgQueue.Dispatch
import Skplat.MsgQueue.Ownership
import Skplat.MsgQueue.Waiters
import Skplat.MsgQueue.WakeUp
import Skplat.MsgQueue.Quit
import Skplat.MsgQueueWrapper.Handshake
import Skplat.MsgQueueWrapper.HandlerIds
import Skplat.TcpClient.System
import Skplat.TcpClient.Steps
import Skplat.TcpClient.WakeUp
import Skplat.TcpClient.WriteStream
import Skplat.SocketSelect.Breaker
import Skplat.SocketSelect.Report
import Skplat.Udp.Shutdown
import Skplat.Udp.SendQueue
import Skplat.TcpServer.StartStop
import Skplat.TcpClientFsm.Loop
import Skplat.MultiConnect.LongList
import Skplat.MultiConnect.Completeness
import Skplat.MultiConnect.Pacing
import Skplat.MultiConnect.CloseNotification
import Skplat.TcpServerFsm.CloseDiscipline
import Skplat.TcpFsm.ByteStreams
import Skplat.Utils.AutoBufferRefines
import Skplat.Utils.PositionalRead
import Skplat.Thread.Reclamation
import Skplat.Thread.DelayedStart
import Skplat.RangeDownload.Resume
import Skplat.RangeDownload.Completion
import Skplat.HttpFilter.ChunkDecode
import Skplat.HttpFilter.GzipChain
import Skplat.Http.Framing
import Skplat.HttpTransfer.Redirects
import Skplat.Sqlite.ExecSql
import Skplat.Sqlite.Statements
import Skplat.NetworkDatabase.XTask
import Skplat.LruCache.System
import Skplat.LruCache.Buckets
import Skplat.DnsCache.Isolation
import Skplat.TaskInfo.Wait
import Skplat.MsgQueue.Timers
import Skplat.MsgQueue.Cancel
import Skplat.BlockSocket.Recv
import Skplat.BlockSocket.Send
import Skplat.SocketAddress.Parsers
import Skplat.SocketAddress.RoundTrip
import Skplat.SocketSelect.Registration
import Skplat.Sknet.BufferRefines
import Skplat.RangeDownload.Merge
import Skplat.StrUtil.HexCodec
import Skplat.StrUtil.Tokenizer
import Skplat.HttpTransfer.StatusLine
import Skplat.HttpTransfer.ServerRange
import Skplat.Url.Relocation
import Skplat.SocksConnect.Connect
import Skplat.LogFiles.CreateDir
import Skplat.LogFiles.Expiry
import Skplat.LogFiles.Migration
import Skplat.LogBase.Format
import Skplat.StrUtil.UrlEncode
import Skplat.Anr.HeapOrder
import Skplat.Anr.CpuAccounting
import Skplat.WorkQueue.Waiters
import Skplat.WorkQueue.Finish
import Skplat.WorkQueue.Cancel
import Skplat.RefBase.Lifetime
import Skplat.BasicHashtable.KeyedHash
import Skplat.VectorImpl.NoItems
import Skplat.SortedVectorImpl.Runs
