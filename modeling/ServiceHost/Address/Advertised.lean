import ServiceHost.Address.Socket

set_option autoImplicit false

namespace ServiceHost.Address

-- The address to advertise for a listen address: a wildcard becomes the machine's own address, any
-- other is kept.
def advertise? (own : Ip) (listen : String) : Option String :=
  (Socket.parse? listen).map fun socket =>
    (Socket.ofIp (if socket.ip.isUnspecified then own else socket.ip) socket.port).text

def isWildcard (listen : String) : Bool := (Socket.parse? listen).any (·.ip.isUnspecified)

-- The address under which a bound service is announced: port zero means the bound port, and a text
-- with a colon that is no socket address is a host name with its port.
def announce? (advertised : Option String) (bound : Socket) : Option String :=
  let configured := advertised.getD bound.text
  match Socket.parse? configured with
  | some socket =>
      if socket.port = 0 then some (Socket.ofIp socket.ip bound.port).text else some configured
  | none => if ':' ∈ configured.toList then some configured else none

end ServiceHost.Address
