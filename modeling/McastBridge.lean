import McastBridge.Bridge
import McastBridge.Evm
import McastBridge.Codec
import McastBridge.Group
import McastBridge.Coupling
import McastBridge.Subsystem
import McastBridge.Igmp
import McastBridge.Mld
import McastBridge.Never
import McastBridge.Table
import McastBridge.MldTimers
import McastBridge.Querier
import McastBridge.Election
import McastBridge.Durations
import McastBridge.Reports
import McastBridge.ConfigText
import McastBridge.ConfigDraft
import McastBridge.ConfigRead
import McastBridge.Frames
import McastBridge.Packets
import McastBridge.MldPackets
import McastBridge.Checksum
import McastBridge.Daemon
import McastBridge.Forwarding
import McastBridge.Threads
import McastBridge.Interleavings
