import Keepalived.CLibrary
import Keepalived.GlobalData
import Keepalived.Platform
import Keepalived.GeneralHandlers
import Keepalived.LvsHandlers
import Keepalived.ProcessHandlers
import Keepalived.VrrpHandlers
import Keepalived.SystemHandlers
import Keepalived.GlobalKeywords
import Keepalived.Footprint
import Keepalived.HandlerFootprints
import Keepalived.OptionScan
import Keepalived.SyncDaemon
import Keepalived.Rejection
import Keepalived.SingleAssignment
import Keepalived.McastGroups
import Keepalived.MemoryFaults
import Keepalived.Commutation
import Keepalived.Numerals
import Keepalived.IpsetNames
import Keepalived.OptionBounds
import Keepalived.SettingRanges
import Keepalived.NameBuffers
import Keepalived.Monotone
import Keepalived.KeywordTable
import Keepalived.PassOrder
import Keepalived.Representation
import Keepalived.LastWriter
import Keepalived.FirstWriter
import Keepalived.Slicing
