import TcpStack.Receive
import TcpStack.Peers

namespace TcpStack.Lifecycle

open Wire StateMachine Reliability ConnectionManager TCPConnectionManager Socket Table Receive Peers

variable {m : TCPConnectionManager}

/-- `connect` never opens a connection: in every reachable state it returns a
null pointer, leaves the table as it was and hands no SYN to the IP layer. -/
theorem connect_returns_none (h : Reach m) (localIp remoteIp iss : BitVec 32)
    (localPort remotePort : BitVec 16) :
    let r := m.connect localIp localPort remoteIp remotePort iss
    r.1 = none ∧ r.2.connections = m.connections ∧ r.2.ipLayer = m.ipLayer := by
  rw [connect_eq]
  refine ⟨rfl, ?_, rfl⟩
  have hfresh : ∀ q ∈ m.connections, (q != m.nextAddr) = true := fun q hq => by
    simpa using Nat.ne_of_lt (h.tableInv.allocated q hq)
  simp [List.filter_append, List.filter_eq_self.2 hfresh]

theorem connect_returns_none_client :
    let m := TCPConnectionManager.init []
    let r := m.connect 0x0200007F 12345 0x0100007F 9000 1000
    Reach m ∧ r.1 = none ∧ r.2.connections = m.connections ∧ r.2.ipLayer = m.ipLayer :=
  ⟨Reach.init [], connect_returns_none (Reach.init []) _ _ _ _ _⟩

/-- The sockets a process reaches over the shared manager: from the public
constructor, by their own calls, as `accept` returns them, and through the
other sockets' operations on the manager. -/
inductive SocketReach : TCPSocket × TCPConnectionManager → Prop
  | fresh {m : TCPConnectionManager} : Reach m → SocketReach (TCPSocket.init, m)
  | bind {x : TCPSocket × TCPConnectionManager} (ip : BitVec 32) (port : BitVec 16) :
      SocketReach x → SocketReach ((x.1.bind ip port).2, x.2)
  | listen {x : TCPSocket × TCPConnectionManager} : SocketReach x → SocketReach (x.1.listen x.2).2
  | connect {x : TCPSocket × TCPConnectionManager} (remoteIp : BitVec 32) (port : BitVec 16)
      (iss : BitVec 32) : SocketReach x → SocketReach (x.1.connect x.2 remoteIp port iss).2
  | accept {x : TCPSocket × TCPConnectionManager} (inbound : List (IPHeader × Bytes × BitVec 32)) :
      SocketReach x → SocketReach (x.1, (x.1.accept x.2 inbound).2)
  | accepted {x : TCPSocket × TCPConnectionManager} {s : TCPSocket}
      (inbound : List (IPHeader × Bytes × BitVec 32)) :
      SocketReach x → (x.1.accept x.2 inbound).1 = some s → SocketReach (s, (x.1.accept x.2 inbound).2)
  | step {x : TCPSocket × TCPConnectionManager} (a : SocketAction) : SocketReach x → SocketReach (step x a)
  | other {x : TCPSocket × TCPConnectionManager} {m' : TCPConnectionManager} :
      SocketReach x → Op x.2 m' → SocketReach (x.1, m')

/-- What every reachable socket keeps. -/
structure Idle (x : TCPSocket × TCPConnectionManager) : Prop where
  reach : Reach x.2
  connection : x.1.connection = none
  receiveBuffer : x.1.receiveBuffer = []
  reliability : x.1.reliability = .init

namespace Idle

variable {x : TCPSocket × TCPConnectionManager}

theorem bind (h : Idle x) (ip : BitVec 32) (port : BitVec 16) : Idle ((x.1.bind ip port).2, x.2) := by
  unfold TCPSocket.bind
  split <;> exact ⟨h.1, h.2, h.3, h.4⟩

theorem listen (h : Idle x) : Idle (x.1.listen x.2).2 := by
  unfold TCPSocket.listen
  split
  · exact h
  · exact ⟨h.reach.listen _ _, h.2, h.3, h.4⟩

theorem connect (h : Idle x) (remoteIp : BitVec 32) (port : BitVec 16) (iss : BitVec 32) :
    Idle (x.1.connect x.2 remoteIp port iss).2 := by
  unfold TCPSocket.connect
  split
  · exact h
  · have hr := h.reach.connect (if x.1.localIp = 0 then 0x0100007F else x.1.localIp)
      (if x.1.localPort = 0 then 12345 else x.1.localPort) remoteIp port iss
    simp only [connect_eq] at hr ⊢
    exact ⟨hr, rfl, h.3, h.4⟩

theorem accept_fst (h : Idle x) (inbound : List (IPHeader × Bytes × BitVec 32)) :
    (x.1.accept x.2 inbound).1 = none := by
  unfold TCPSocket.accept
  split
  · rfl
  · simp [h.reach.tableInv.acceptConnection_fst inbound]

theorem accept (h : Idle x) (inbound : List (IPHeader × Bytes × BitVec 32)) :
    Idle (x.1, (x.1.accept x.2 inbound).2) := by
  unfold TCPSocket.accept
  split
  · exact h
  · exact ⟨h.reach.accept _, h.2, h.3, h.4⟩

theorem isConnected (h : Idle x) : x.1.isConnected x.2 = false := by
  simp [TCPSocket.isConnected, h.connection]

theorem step (h : Idle x) (a : SocketAction) : Idle (Socket.step x a) := by
  obtain ⟨s, m⟩ := x
  have hc : s.connection = none := h.connection
  cases a with
  | send data now => simpa [Socket.step, TCPSocket.send, hc] using h
  | recv length => simpa [Socket.step, TCPSocket.recv, h.isConnected] using h
  | sweep now => simpa [Socket.step, TCPSocket.sweep, hc] using h
  | close =>
      simp only [Socket.step, TCPSocket.close, hc]
      exact ⟨h.reach, rfl, h.3, h.4⟩
  | segment ip tcpData iss => exact ⟨h.reach.segment _ _ _, h.2, h.3, h.4⟩

end Idle

namespace SocketReach

variable {x : TCPSocket × TCPConnectionManager}

theorem idle (h : SocketReach x) : Idle x := by
  induction h with
  | fresh hm => exact ⟨hm, rfl, rfl, rfl⟩
  | bind ip port _ ih => exact ih.bind ip port
  | listen _ ih => exact ih.listen
  | connect remoteIp port iss _ ih => exact ih.connect remoteIp port iss
  | accept inbound _ ih => exact ih.accept inbound
  | accepted inbound _ hs ih => simp [ih.accept_fst inbound] at hs
  | step a _ ih => exact ih.step a
  | other _ ho ih => exact ⟨reach_of_op ih.reach ho, ih.2, ih.3, ih.4⟩

theorem run (h : SocketReach x) (actions : List SocketAction) : SocketReach (Socket.run x actions) :=
  run_induction SocketReach (fun _ a h => h.step a) actions x h

theorem deliveredAlong_eq_nil (h : SocketReach x) (actions : List SocketAction) :
    deliveredAlong x actions = [] := by
  induction actions generalizing x with
  | nil => rfl
  | cons a actions ih =>
      rw [deliveredAlong, ih (h.step a), List.append_nil]
      exact (List.append_eq_nil.1 ((delivered_step x a).trans h.idle.receiveBuffer)).1

end SocketReach

/-- The example server: bound to 127.0.0.1:9000, listening, and through an
`accept` that drains the client's SYN and ACK. -/
def server : TCPSocket × TCPConnectionManager :=
  let listener := ((TCPSocket.init.bind 0x0100007F 9000).2.listen (.init [])).2
  (listener.1, (listener.1.accept listener.2
    [(fromClient, tcpSegment client [] TCPHeader.syn, 5000),
     (fromClient, tcpSegment { client with localSeq := 1001, localAck := 5001 } [] TCPHeader.ack, 0)]).2)

theorem server_reach : SocketReach server :=
  .accept _ (.listen (.bind 0x0100007F 9000 (.fresh (.init []))))

variable {x : TCPSocket × TCPConnectionManager}

end TcpStack.Lifecycle
