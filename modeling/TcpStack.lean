import TcpStack.Wire
import TcpStack.StateMachine
import TcpStack.Reliability
import TcpStack.Engine
import TcpStack.IpLayer
import TcpStack.ConnectionManager
import TcpStack.Edits
import TcpStack.Table
import TcpStack.Demux
import TcpStack.Socket
import TcpStack.Receive
import TcpStack.Codec
import TcpStack.Transmit
import TcpStack.Peers
import TcpStack.Lifecycle
import TcpStack.Checksum
import TcpStack.Rtt
import TcpStack.Flow
import TcpStack.Detection
